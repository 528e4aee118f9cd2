import Accord.Server.Vault
import Mathlib.Data.List.TakeWhile

/-! What a listing of the vault returns: the names of the account that start
with the prefix, as long as the database reads the prefix as it stands. -/

namespace Accord

private theorem vaultPattern_eq (namePrefix : String) :
    vaultPattern namePrefix =
      Like.guarded likeMarks namePrefix.toList ++ ['%'] := by
  unfold vaultPattern replaceChar Like.guarded
  rw [List.flatMap_assoc]
  congr 2
  funext symbol
  by_cases percent : symbol = '%'
  · subst percent
    rfl
  · by_cases underscore : symbol = '_'
    · subst underscore
      rfl
    · simp [likeMarks, percent, underscore]

def swapCase (char : Char) : Char :=
  if char.isUpper then char.toLower
  else if char.isLower then char.toUpper
  else char

private theorem toNat_lt_of_isAlpha {char : Char}
    (letter : char.isAlpha = true) :
    char.toNat < 128 := by
  rcases Bool.or_eq_true_iff.mp letter with upper | lower
  · have range : char.toNat ≤ 'Z'.toNat := (of_decide_eq_true upper).2
    exact range.trans_lt (by decide)
  · have range : char.toNat ≤ 'z'.toNat :=
      of_decide_eq_true (Bool.and_eq_true_iff.mp lower).2
    exact range.trans_lt (by decide)

private theorem swapCase_ofNat :
    ∀ code < 128, (Char.ofNat code).isAlpha = true →
    (swapCase (Char.ofNat code)).toLower = (Char.ofNat code).toLower ∧
      swapCase (Char.ofNat code) ≠ Char.ofNat code := by
  decide

private theorem swapCase_letter {char : Char} (letter : char.isAlpha = true) :
    (swapCase char).toLower = char.toLower ∧ swapCase char ≠ char := by
  have swapped := swapCase_ofNat char.toNat (toNat_lt_of_isAlpha letter)
  rw [Char.ofNat_toNat] at swapped
  exact swapped letter

private theorem swapCase_other {char : Char} (other : char.isAlpha = false) :
    swapCase char = char := by
  have cases := Bool.or_eq_false_iff.mp other
  simp [swapCase, cases.1, cases.2]

private theorem toLower_eq_self {char : Char}
    (notUpper : char.isUpper = false) :
    char.toLower = char :=
  dif_neg (of_decide_eq_false notUpper)

private theorem isAlpha_toLower_ofNat : ∀ code < 128,
    (Char.ofNat code).isUpper = true →
      (Char.ofNat code).toLower.isAlpha = true := by
  decide

private theorem eq_of_toLower_eq {char other : Char}
    (own : char.isAlpha = false)
    (same : char.toLower = other.toLower) : char = other := by
  have cased := Bool.or_eq_false_iff.mp own
  rw [toLower_eq_self cased.1] at same
  cases upper : other.isUpper with
  | false => rw [same, toLower_eq_self upper]
  | true =>
      have letter : other.isAlpha = true :=
        Bool.or_eq_true_iff.mpr (.inl upper)
      have lowered := isAlpha_toLower_ofNat other.toNat
        (toNat_lt_of_isAlpha letter)
      rw [Char.ofNat_toNat, ← same, own] at lowered
      cases lowered upper

section BeforeNul

variable {text : List Char}

private theorem beforeNul_append (whole : Char.ofNat 0 ∉ text)
    (rest : List Char) :
    beforeNul (text ++ rest) = text ++ beforeNul rest := by
  apply List.takeWhile_append_of_pos
  intro char member
  exact bne_iff_ne.mpr fun same => whole (same ▸ member)

private theorem beforeNul_of_notMem (whole : Char.ofNat 0 ∉ text) :
    beforeNul text = text := by
  rw [← List.append_nil text, beforeNul_append whole]
  rfl

private theorem nul_notMem_beforeNul : Char.ofNat 0 ∉ beforeNul text := by
  intro member
  have passed := List.mem_takeWhile_imp member
  simp at passed

private theorem beforeNul_append_nul (whole : Char.ofNat 0 ∉ text)
    (rest : List Char) :
    beforeNul (text ++ Char.ofNat 0 :: rest) = text := by
  rw [beforeNul_append whole, beforeNul, List.takeWhile_cons_of_neg (by simp),
    List.append_nil]

end BeforeNul

namespace Backend

variable {backend : Backend} {before : String → String → Bool}
  {table : VaultTable} {userId : Uuid} {namePrefix : String}

/-- The names of the user that start with the prefix, each once. -/
def ListsExactly (backend : Backend) (before : String → String → Bool)
    (table : VaultTable) (userId : Uuid) (namePrefix : String) : Prop :=
  ∃ names, backend.listVaultBlobs before table userId namePrefix = .ok names ∧
    names.Nodup ∧ ∀ name, name ∈ names ↔
      name ∈ table.names userId ∧ namePrefix.toList <+: name.toList

/-- The statement is carried out: Postgres takes the pattern, and SQLite does
not find it too long for a row. -/
def Accepts (backend : Backend) (namePrefix : String)
    (names : List String) : Prop :=
  match backend with
  | .sqlite =>
      byteLength (vaultPattern namePrefix) ≤ maxLikePattern ∨ names = []
  | .postgres => Char.ofNat 0 ∉ namePrefix.toList

instance (backend : Backend) (namePrefix : String) (names : List String) :
    Decidable (backend.Accepts namePrefix names) :=
  match backend with
  | .sqlite => inferInstanceAs (Decidable (_ ∨ _))
  | .postgres => inferInstanceAs (Decidable (¬_))

/-- The start of the name is the prefix as far as the database can tell; of a
prefix that it does not read to its end, the whole name. -/
def Resembles (backend : Backend) (namePrefix name : String) : Prop :=
  Like.starts backend.alike (backend.likeReads namePrefix.toList)
      (backend.likeReads name.toList) = true ∧
    (backend.likeReads namePrefix.toList = namePrefix.toList ∨
      (backend.likeReads namePrefix.toList).length =
        (backend.likeReads name.toList).length)

instance (backend : Backend) (namePrefix name : String) :
    Decidable (backend.Resembles namePrefix name) :=
  inferInstanceAs (Decidable (_ ∧ _))

/-- Nothing in the prefix has a meaning of its own to the database. -/
structure Neutral (backend : Backend) (namePrefix : String) : Prop where
  unescaped : '\\' ∉ namePrefix.toList
  unended : Char.ofNat 0 ∉ namePrefix.toList
  short : backend = .sqlite →
    byteLength (vaultPattern namePrefix) ≤ maxLikePattern
  caseless : backend = .sqlite →
    ∀ char ∈ namePrefix.toList, char.isAlpha = false

private theorem alike_self (backend : Backend) (char : Char) :
    backend.alike char char = true := by
  cases backend <;> exact beq_self_eq_true _

private theorem likeReads_of_notMem {text : List Char}
    (whole : Char.ofNat 0 ∉ text) : backend.likeReads text = text := by
  cases backend with
  | sqlite => exact beforeNul_of_notMem whole
  | postgres => rfl

private theorem nul_mem_vaultPattern :
    Char.ofNat 0 ∈ vaultPattern namePrefix ↔
      Char.ofNat 0 ∈ namePrefix.toList := by
  rw [vaultPattern_eq, List.mem_append, Like.mem_guarded (by decide)]
  exact or_iff_left (by decide)

private theorem beforeNul_vaultPattern
    (cut : Char.ofNat 0 ∈ namePrefix.toList) :
    beforeNul (vaultPattern namePrefix) =
      Like.guarded likeMarks (beforeNul namePrefix.toList) := by
  obtain ⟨start, rest, split, whole⟩ := List.eq_append_cons_of_mem cut
  have unended : Char.ofNat 0 ∉ Like.guarded likeMarks start :=
    fun member => whole ((Like.mem_guarded (by decide)).mp member)
  rw [vaultPattern_eq, split, beforeNul_append_nul whole, Like.guarded_append,
    Like.guarded_tame (by decide) (by decide), List.append_assoc,
    List.cons_append, beforeNul_append_nul unended]

private theorem items_vaultPattern (unescaped : '\\' ∉ namePrefix.toList) :
    Like.items likeMarks (vaultPattern namePrefix) =
      some (namePrefix.toList.map .literal ++ [.many]) := by
  rw [vaultPattern_eq, Like.items_guarded unescaped]
  rfl

private theorem like_iff_resembles (unescaped : '\\' ∉ namePrefix.toList)
    (name : String) :
    backend.like (vaultPattern namePrefix) name = true ↔
      backend.Resembles namePrefix name := by
  have whole : backend.likeReads (vaultPattern namePrefix) =
        vaultPattern namePrefix →
      backend.likeReads namePrefix.toList = namePrefix.toList →
      (backend.like (vaultPattern namePrefix) name = true ↔
        backend.Resembles namePrefix name) := by
    intro pattern start
    rw [like, pattern, Like.like_of_items (items_vaultPattern unescaped),
      Like.fits_word, Resembles, start]
    simp
  cases backend with
  | postgres => exact whole rfl rfl
  | sqlite =>
      by_cases cut : Char.ofNat 0 ∈ namePrefix.toList
      · have plain : '\\' ∉ beforeNul namePrefix.toList :=
          fun member => unescaped ((List.takeWhile_sublist _).subset member)
        have shorter : beforeNul namePrefix.toList ≠ namePrefix.toList := by
          intro same
          exact nul_notMem_beforeNul (same ▸ cut)
        have read : Like.items likeMarks (Like.guarded likeMarks
            (beforeNul namePrefix.toList)) =
            some ((beforeNul namePrefix.toList).map .literal) := by
          rw [← List.append_nil (Like.guarded _ _), Like.items_guarded plain]
          simp [Like.items]
        rw [like, likeReads, beforeNul_vaultPattern cut,
          Like.like_of_items read, Resembles]
        simp [likeReads, Like.fits_exactly, shorter]
      · apply whole
        · exact likeReads_of_notMem (mt nul_mem_vaultPattern.mp cut)
        · exact likeReads_of_notMem cut

private theorem resembles_of_starts {name : String}
    (starts : namePrefix.toList <+: name.toList) :
    backend.Resembles namePrefix name := by
  obtain ⟨rest, split⟩ := starts
  rw [Resembles, ← split]
  cases backend with
  | postgres =>
      exact ⟨Like.starts_of_prefix postgres.alike_self
        (List.prefix_append _ _), .inl rfl⟩
  | sqlite =>
      simp only [likeReads]
      by_cases cut : Char.ofNat 0 ∈ namePrefix.toList
      · obtain ⟨start, more, same, whole⟩ := List.eq_append_cons_of_mem cut
        rw [same, List.append_assoc, List.cons_append,
          beforeNul_append_nul whole, beforeNul_append_nul whole]
        exact ⟨Like.starts_of_prefix sqlite.alike_self List.prefix_rfl,
          .inr rfl⟩
      · rw [beforeNul_append cut, beforeNul_of_notMem cut]
        exact ⟨Like.starts_of_prefix sqlite.alike_self
          (List.prefix_append _ _), .inl rfl⟩

theorem fits_decoy (backend : Backend) (namePrefix : String) :
    ∃ found, Like.items likeMarks (vaultPattern namePrefix) = some found ∧
      Like.fits backend.alike found
        (Like.decoy likeMarks 'x' namePrefix.toList) = true := by
  rw [vaultPattern_eq]
  exact Like.fits_decoy backend.alike_self _

private theorem likeFails_eq_none_iff {names : List String} :
    backend.likeFails (vaultPattern namePrefix) names = none ↔
      backend.Accepts namePrefix names := by
  cases backend with
  | sqlite =>
      simp only [likeFails, Accepts]
      split <;> grind
  | postgres =>
      have ended : Like.items likeMarks (vaultPattern namePrefix) ≠ none := by
        obtain ⟨found, read, -⟩ := fits_decoy postgres namePrefix
        rw [read]
        exact Option.some_ne_none found
      have taken : Postgres.takesText (String.ofList (vaultPattern namePrefix))
          = true ↔ Char.ofNat 0 ∉ namePrefix.toList := by
        rw [Postgres.takesText, String.toList_ofList, List.all_eq_true,
          ← nul_mem_vaultPattern]
        grind
      simp only [likeFails, Accepts, ended, false_and, if_false, ← taken]
      split <;> simp_all

private theorem listsExactly_iff_of_accepts
    (accepts : backend.Accepts namePrefix (table.names userId)) :
    backend.ListsExactly before table userId namePrefix ↔
      ∀ name ∈ table.names userId,
        (backend.like (vaultPattern namePrefix) name = true ↔
          namePrefix.toList <+: name.toList) := by
  have listed : backend.listVaultBlobs before table userId namePrefix =
      .ok (((table.names userId).filter
        (backend.like (vaultPattern namePrefix))).mergeSort before) := by
    simp only [listVaultBlobs, likeFails_eq_none_iff.mpr accepts]
  have permuted := List.mergeSort_perm ((table.names userId).filter
    (backend.like (vaultPattern namePrefix))) before
  constructor
  · rintro ⟨names, returned, -, precise⟩ name stored
    rw [listed, Except.ok.injEq] at returned
    have listing := precise name
    rw [← returned, permuted.mem_iff, List.mem_filter] at listing
    simpa [stored] using listing
  · intro agrees
    refine ⟨_, listed, ?_, ?_⟩
    · exact permuted.nodup_iff.mpr ((table.nodup_names userId).filter _)
    · intro name
      rw [permuted.mem_iff, List.mem_filter]
      exact and_congr_right fun stored => agrees name stored

private theorem accepts_of_listsExactly
    (exactly : backend.ListsExactly before table userId namePrefix) :
    backend.Accepts namePrefix (table.names userId) := by
  obtain ⟨names, returned, -⟩ := exactly
  simp only [listVaultBlobs] at returned
  rw [← likeFails_eq_none_iff]
  cases fails : backend.likeFails (vaultPattern namePrefix)
      (table.names userId) with
  | none => rfl
  | some error =>
      rw [fails] at returned
      cases returned

private theorem listsExactly_iff_of_unescaped
    (unescaped : '\\' ∉ namePrefix.toList) :
    backend.ListsExactly before table userId namePrefix ↔
      backend.Accepts namePrefix (table.names userId) ∧
        ∀ name ∈ table.names userId, backend.Resembles namePrefix name →
          namePrefix.toList <+: name.toList := by
  constructor
  · intro exactly
    have accepts := accepts_of_listsExactly exactly
    refine ⟨accepts, fun name stored resembles => ?_⟩
    exact ((listsExactly_iff_of_accepts accepts).mp exactly name stored).mp
      ((like_iff_resembles unescaped name).mpr resembles)
  · rintro ⟨accepts, only⟩
    rw [listsExactly_iff_of_accepts accepts]
    intro name stored
    rw [like_iff_resembles unescaped]
    exact ⟨only name stored, resembles_of_starts⟩

def lone (userId : Uuid) (name : List Char) : VaultTable where
  rows := [⟨userId, .ofList name, []⟩]
  unique := List.nodup_singleton _

private theorem mem_names_lone (name : List Char) (found : String) :
    found ∈ (lone userId name).names userId ↔ found = .ofList name := by
  simp [lone, VaultTable.names]

private theorem names_lone_ne_nil (name : List Char) :
    (lone userId name).names userId ≠ [] :=
  List.ne_nil_of_mem ((mem_names_lone name _).mpr rfl)

private theorem like_lone {name : List Char}
    (exactly : backend.ListsExactly before (lone userId name) userId
      namePrefix) :
    backend.like (vaultPattern namePrefix) (.ofList name) = true ↔
      namePrefix.toList <+: name := by
  have listed := (listsExactly_iff_of_accepts
    (accepts_of_listsExactly exactly)).mp exactly _
    ((mem_names_lone name _).mpr rfl)
  rwa [String.toList_ofList] at listed

private theorem short_of_listsExactly {name : List Char}
    (exactly : sqlite.ListsExactly before (lone userId name) userId
      namePrefix) :
    byteLength (vaultPattern namePrefix) ≤ maxLikePattern :=
  (accepts_of_listsExactly exactly).resolve_right (names_lone_ne_nil name)

/-- Of a prefix with U+0000 the database either refuses the pattern or reads
no more than what is before it. -/
private theorem unended_of_always
    (always : ∀ table,
      backend.ListsExactly before table userId namePrefix) :
    Char.ofNat 0 ∉ namePrefix.toList := by
  cases backend with
  | postgres =>
      exact accepts_of_listsExactly
        (always (lone userId namePrefix.toList))
  | sqlite =>
      intro cut
      have own := (like_lone (always (lone userId
        namePrefix.toList))).mpr List.prefix_rfl
      have same : sqlite.like (vaultPattern namePrefix)
          (.ofList (beforeNul namePrefix.toList)) =
          sqlite.like (vaultPattern namePrefix)
            (.ofList namePrefix.toList) := by
        simp only [like, likeReads, String.toList_ofList,
          beforeNul_of_notMem nul_notMem_beforeNul]
      have starts := (like_lone (always (lone userId
        (beforeNul namePrefix.toList)))).mp (same.trans own)
      exact nul_notMem_beforeNul (starts.subset cut)

/-- The prefix under an escape of its own fits a name that does not start with
it. -/
private theorem unescaped_of_always
    (always : ∀ table,
      backend.ListsExactly before table userId namePrefix) :
    '\\' ∉ namePrefix.toList := by
  intro escaped
  have whole := unended_of_always always
  obtain ⟨items, read, fit⟩ := fits_decoy backend namePrefix
  have decoyed : Char.ofNat 0 ∉
      Like.decoy likeMarks 'x' namePrefix.toList := by
    intro member
    rcases Like.mem_decoy member with old | other | many
    · exact whole old
    · exact absurd other (by decide)
    · exact absurd many (by decide)
  have listed := like_lone (always (lone userId
    (Like.decoy likeMarks 'x' namePrefix.toList)))
  rw [like, likeReads_of_notMem (mt nul_mem_vaultPattern.mp whole),
    String.toList_ofList, likeReads_of_notMem decoyed,
    Like.like_of_items read] at listed
  exact Like.not_prefix_decoy (by decide) escaped (listed.mp fit)

private theorem swapCase_ne_nul {char : Char} (ended : char ≠ Char.ofNat 0) :
    swapCase char ≠ Char.ofNat 0 := by
  intro same
  cases alpha : char.isAlpha with
  | false => exact ended ((swapCase_other alpha).symm.trans same)
  | true =>
      have lowered := (swapCase_letter alpha).1
      rw [same] at lowered
      exact ended (eq_of_toLower_eq (by decide) lowered).symm

private theorem caseless_of_always
    (always : ∀ table,
      sqlite.ListsExactly before table userId namePrefix) :
    ∀ char ∈ namePrefix.toList, char.isAlpha = false := by
  have unescaped := unescaped_of_always always
  have whole := unended_of_always always
  have alike : ∀ char, sqlite.alike char (swapCase char) = true := by
    intro char
    cases alpha : char.isAlpha with
    | true => exact beq_iff_eq.mpr (swapCase_letter alpha).1.symm
    | false =>
        rw [swapCase_other alpha]
        exact sqlite.alike_self char
  have swapped : Char.ofNat 0 ∉ namePrefix.toList.map swapCase := by
    intro member
    obtain ⟨char, old, same⟩ := List.mem_map.mp member
    exact swapCase_ne_nul (fun ended => whole (ended ▸ old)) same
  have resembles : sqlite.Resembles namePrefix
      (.ofList (namePrefix.toList.map swapCase)) := by
    rw [Resembles, String.toList_ofList, likeReads_of_notMem whole,
      likeReads_of_notMem swapped]
    exact ⟨Like.starts_map swapCase alike _, .inl rfl⟩
  have starts := (like_lone (always (lone userId
    (namePrefix.toList.map swapCase)))).mp
      ((like_iff_resembles unescaped _).mpr resembles)
  have equal := starts.eq_of_length (List.length_map _).symm
  have kept := List.map_inj_left.mp (equal.symm.trans (List.map_id _).symm)
  intro char member
  cases cased : char.isAlpha with
  | false => rfl
  | true => exact absurd (kept char member) (swapCase_letter cased).2

private theorem starts_of_caseless {word text : List Char}
    (caseless : ∀ char ∈ word, char.isAlpha = false)
    (resembles : Like.starts sqlite.alike word text = true) :
    word <+: text := by
  induction word generalizing text with
  | nil => exact List.nil_prefix
  | cons char word induction =>
      cases text with
      | nil => cases resembles
      | cons first text =>
          rw [Like.starts, Bool.and_eq_true] at resembles
          have own := caseless char List.mem_cons_self
          have same : char = first :=
            eq_of_toLower_eq own (beq_iff_eq.mp resembles.1)
          rw [same, List.cons_prefix_cons]
          exact ⟨rfl, induction
            (fun char member => caseless char (List.mem_cons_of_mem _ member))
            resembles.2⟩

private theorem accepts_of_neutral (neutral : backend.Neutral namePrefix)
    (names : List String) : backend.Accepts namePrefix names := by
  cases backend with
  | sqlite => exact .inl (neutral.short rfl)
  | postgres => exact neutral.unended

private theorem starts_of_neutral (neutral : backend.Neutral namePrefix)
    {name : String} (resembles : backend.Resembles namePrefix name) :
    namePrefix.toList <+: name.toList := by
  have starts := resembles.1
  rw [likeReads_of_notMem neutral.unended] at starts
  cases backend with
  | sqlite =>
      exact (starts_of_caseless (neutral.caseless rfl) starts).trans
        (List.takeWhile_prefix _)
  | postgres => exact (Like.starts_beq _ _).mp starts

/-- What a prefix lists.  Where there is no backslash in it, what can go wrong
is that the statement fails and that the database takes some name for one with
the prefix; where there is one, some names always make the listing wrong. -/
theorem listsExactly_iff (backend : Backend)
    (before : String → String → Bool) (userId : Uuid) (namePrefix : String) :
    ((∀ table, backend.ListsExactly before table userId namePrefix) ↔
      backend.Neutral namePrefix) ∧
    ∀ table, '\\' ∉ namePrefix.toList →
      (backend.ListsExactly before table userId namePrefix ↔
        backend.Accepts namePrefix (table.names userId) ∧
        ∀ name ∈ table.names userId, backend.Resembles namePrefix name →
          namePrefix.toList <+: name.toList) := by
  refine ⟨⟨?_, ?_⟩, fun table => listsExactly_iff_of_unescaped⟩
  · intro always
    refine ⟨unescaped_of_always always, unended_of_always always, ?_, ?_⟩
    · rintro rfl
      exact short_of_listsExactly (always (lone userId []))
    · rintro rfl
      exact caseless_of_always always
  · intro neutral table
    rw [listsExactly_iff_of_unescaped neutral.unescaped]
    exact ⟨accepts_of_neutral neutral _,
      fun name _ => starts_of_neutral neutral⟩

theorem hist_listed : ∀ backend : Backend,
    backend.ListsExactly (fun _ _ => true) (lone 1 "hist/7".toList) 1
      "hist/" := by
  intro backend
  have listing := (listsExactly_iff backend (fun _ _ => true) 1 "hist/").2
    (lone 1 "hist/7".toList) (by decide)
  apply listing.mpr
  constructor
  · cases backend <;> decide
  · intro name stored _
    rw [(mem_names_lone _ _).mp stored]
    decide

/-- Both databases read `\%` as a percent sign that ends the name, and SQLite
does not see the case of a letter. -/
theorem hist_listed_wrong :
    ¬sqlite.ListsExactly (fun _ _ => true)
        (lone 1 "hist/7".toList) 1 "Hist/" ∧
      ¬postgres.ListsExactly (fun _ _ => true)
        (lone 1 "a\\b".toList) 1 "a\\" := by
  constructor
  · intro precise
    exact absurd ((like_lone precise).mp (by decide)) (by decide)
  · intro precise
    exact absurd ((like_lone precise).mpr (by decide)) (by decide)

end Backend

end Accord
