import Accord.Library.Search
import Accord.Types.Text
import Mathlib.Data.String.Basic

/-! The public peers that a client finds in the lists of the mesh's peers, and
the addresses at which it probes them. -/

namespace Accord

namespace PeerUris

open Search

def schemes : List (List Char) := ["tls://".toList, "tcp://".toList]

def isStop (char : Char) : Bool :=
  -- The second is the backtick.
  isWhitespace char || char == '\x60' || char == '<' || char == ')' ||
    char == '"'

def beforeQuery (uri : List Char) : List Char :=
  uri.takeWhile (· != '?')

/-- The check for a port, on what follows the last colon. -/
def hasPort (uri : List Char) : Bool :=
  let port := (uri.rtakeWhile (· != ':')).takeWhile (· != '?')
  port.all Char.isDigit && !port.isEmpty

/-- The loop for one scheme: nothing if a slice is off the characters'
boundaries, or if the fuel ends before the loop does. -/
def scan (scheme : List Char) : ℕ → List Char → Option (List (List Char))
  | 0, _ => none
  | fuel + 1, rest =>
      match find Char.utf8Size scheme rest with
      | none => some []
      | some idx => do
          let tail ← sliceFrom Char.utf8Size idx rest
          let stop := (findWhere Char.utf8Size isStop tail).getD
            (width Char.utf8Size tail)
          let uri ← sliceTo Char.utf8Size stop tail
          let rest ← sliceFrom Char.utf8Size
            (idx + width Char.utf8Size scheme) rest
          let later ← scan scheme fuel rest
          if hasPort uri then
            some (beforeQuery uri :: later)
          else
            some later

def extractPeerUris (text : String) : Option (List String) := do
  let fuel := text.toList.length + 1
  let found ← schemes.mapM fun scheme => scan scheme fuel text.toList
  let out := found.flatten.map String.ofList
  some ((out.insertionSort (· ≤ ·)).destutter (· ≠ ·))

def socketAddrOf (uri : String) : Option String := do
  let after ← (cut "://".toList uri.toList).2
  let rest := (cut "://".toList after).1
  if rest.head? = some '[' then
    if "]:".toList <:+: rest then some (String.ofList rest) else none
  else
    let (host, port) ← cutLast ':' rest
    some (String.ofList (host ++ ':' :: port))

/-- What the parts of the text that are found amount to. -/
structure PeerUri (uri : String) : Prop where
  scheme : ∃ scheme ∈ schemes, scheme <+: uri.toList
  plain : ∀ char ∈ uri.toList, char ≠ '?' ∧ isStop char = false
  port : ∃ host digits, uri.toList = host ++ ':' :: digits ∧ digits ≠ [] ∧
    ∀ char ∈ digits, char.isDigit = true
  address : (socketAddrOf uri).isSome = true

def query (uri : List Char) : List Char :=
  uri.dropWhile (· != '?')

def location (uri : List Char) : List Char :=
  (beforeQuery uri).drop 6

def authority (uri : List Char) : List Char :=
  (cut "://".toList (location uri)).1

structure Tidy (uri : List Char) : Prop where
  query : ':' ∈ query uri → hasPort (beforeQuery uri) = true
  nested : authority uri ≠ location uri → ':' ∈ authority uri
  closed : (authority uri).head? = some '[' →
    "]:".toList <:+: authority uri

def uriAt (tail : List Char) : List Char :=
  tail.takeWhile fun char => !isStop char

/-- Each URI with a port in the text is tidy. -/
def Sound (text : String) : Prop :=
  ∀ scheme ∈ schemes, ∀ tail ∈ occurrences scheme text.toList,
    hasPort (uriAt tail) = true → Tidy (uriAt tail)

def candidate (tail : List Char) : Option (List Char) :=
  if hasPort (uriAt tail) then some (beforeQuery (uriAt tail)) else none

private theorem scheme_eq {scheme : List Char} (known : scheme ∈ schemes) :
    ∃ name, scheme = 't' :: name ++ ':' :: ['/', '/'] ∧
      't' ∉ name ++ ':' :: ['/', '/'] ∧ ':' ∉ 't' :: name ∧
      name.length = 2 := by
  simp only [schemes, List.mem_cons, List.not_mem_nil, or_false] at known
  rcases known with rfl | rfl
  · exact ⟨['l', 's'], by decide⟩
  · exact ⟨['c', 'p'], by decide⟩

private theorem scan_found {scheme rest before after : List Char} {idx fuel : ℕ}
    (found : find Char.utf8Size scheme rest = some idx)
    (restEq : rest = before ++ (scheme ++ after))
    (idxEq : idx = width Char.utf8Size before) :
    scan scheme (fuel + 1) rest =
      (scan scheme fuel after).map fun later =>
        (candidate (scheme ++ after)).toList ++ later := by
  have tail : sliceFrom Char.utf8Size idx rest = some (scheme ++ after) := by
    rw [restEq, idxEq]
    exact sliceFrom_width Char.utf8Size_pos _ _
  have next : sliceFrom Char.utf8Size
      (idx + width Char.utf8Size scheme) rest = some after := by
    rw [restEq, idxEq, ← width_append, ← List.append_assoc]
    exact sliceFrom_width Char.utf8Size_pos _ _
  have uri : sliceTo Char.utf8Size
      ((findWhere Char.utf8Size isStop (scheme ++ after)).getD
        (width Char.utf8Size (scheme ++ after))) (scheme ++ after) =
          some (uriAt (scheme ++ after)) :=
    sliceTo_findWhere Char.utf8Size_pos isStop (scheme ++ after)
  simp only [scan, found, tail, next, uri, Option.bind_eq_bind,
    Option.bind_some]
  cases scan scheme fuel after with
  | none => rfl
  | some later =>
      rw [Option.bind_some, Option.map_some, candidate]
      by_cases ported : hasPort (uriAt (scheme ++ after)) = true
      · rw [if_pos ported, if_pos ported]
        rfl
      · rw [if_neg ported, if_neg ported]
        rfl

private theorem scan_eq {scheme : List Char} (known : scheme ∈ schemes)
    {fuel : ℕ}
    {rest : List Char} (enough : rest.length < fuel) :
    scan scheme fuel rest =
      some ((occurrences scheme rest).filterMap candidate) := by
  induction fuel generalizing rest with
  | zero => exact absurd enough (Nat.not_lt_zero _)
  | succ fuel induction =>
      cases found : find Char.utf8Size scheme rest with
      | none =>
          rw [scan, found, occurrences_of_find_none found]
          rfl
      | some idx =>
          obtain ⟨before, after, restEq, idxEq, same⟩ :=
            occurrences_of_find_some found
          obtain ⟨name, schemeEq, fresh, _⟩ := scheme_eq known
          have shorter : after.length < fuel := by
            rw [restEq, schemeEq] at enough
            simp only [List.length_append, List.length_cons] at enough
            omega
          have next : occurrences scheme (scheme ++ after) =
              (scheme ++ after) :: occurrences scheme after := by
            rw [schemeEq]
            exact occurrences_self_append fresh
          rw [scan_found found restEq idxEq, induction shorter,
            Option.map_some, same, next, List.filterMap_cons]
          cases candidate (scheme ++ after) <;> rfl

private theorem extractPeerUris_eq (text : String) :
    extractPeerUris text =
      some ((((schemes.map fun scheme =>
        (occurrences scheme text.toList).filterMap candidate).flatten.map
          String.ofList).insertionSort (· ≤ ·)).destutter (· ≠ ·)) := by
  have runs : (schemes.mapM fun scheme =>
      scan scheme (text.toList.length + 1) text.toList) =
        some (schemes.map fun scheme =>
          (occurrences scheme text.toList).filterMap candidate) := by
    have ends : ∀ scheme ∈ schemes,
        scan scheme (text.toList.length + 1) text.toList =
          some ((occurrences scheme text.toList).filterMap candidate) :=
      fun scheme known => scan_eq known (Nat.lt_succ_self _)
    rw [schemes, List.mapM_cons, List.mapM_cons, List.mapM_nil,
      ends _ List.mem_cons_self,
      ends _ (List.mem_cons_of_mem _ List.mem_cons_self)]
    rfl
  simp only [extractPeerUris, runs, Option.bind_eq_bind, Option.bind_some]

/-- For every text the loops end without a panic, the results strictly
increase, and they are the candidates. -/
private theorem extractPeerUris_some (text : String) :
    ∃ uris, extractPeerUris text = some uris ∧ uris.Pairwise (· < ·) ∧
      ∀ uri, uri ∈ uris ↔ ∃ scheme ∈ schemes, ∃ tail,
        tail ∈ occurrences scheme text.toList ∧
          hasPort (uriAt tail) = true ∧
          uri = String.ofList (beforeQuery (uriAt tail)) := by
  refine ⟨_, extractPeerUris_eq text, sorted_destutter _, fun uri => ?_⟩
  simp only [mem_sorted_destutter, List.mem_map, List.mem_flatten,
    exists_exists_and_eq_and, List.mem_filterMap, candidate]
  constructor
  · rintro ⟨chars, ⟨scheme, known, tail, member, found⟩, rfl⟩
    split at found
    · rename_i ported
      cases found
      exact ⟨scheme, known, tail, member, ported, rfl⟩
    · cases found
  · rintro ⟨scheme, known, tail, member, ported, rfl⟩
    exact ⟨_, ⟨scheme, known, tail, member, if_pos ported⟩, rfl⟩

section Ports

variable {uri : List Char}

private theorem beforeQuery_append_query (uri : List Char) :
    beforeQuery uri ++ query uri = uri :=
  List.takeWhile_append_dropWhile

private theorem not_mem_beforeQuery (uri : List Char) :
    '?' ∉ beforeQuery uri := by
  intro member
  rw [beforeQuery] at member
  have kept := List.mem_takeWhile_imp member
  exact absurd rfl (bne_iff_ne.mp kept)

private theorem hasPort_iff (noQuery : '?' ∉ uri) (colon : ':' ∈ uri) :
    hasPort uri = true ↔ ∃ host digits, uri = host ++ ':' :: digits ∧
      digits ≠ [] ∧ ∀ char ∈ digits, char.isDigit = true := by
  constructor
  · intro ported
    obtain ⟨⟨host, digits⟩, parts⟩ :=
      Option.isSome_iff_exists.mp (cutLast_isSome.mpr colon)
    obtain ⟨whole, last⟩ := cutLast_eq_some parts
    have unqueried : digits.takeWhile (· != '?') = digits := by
      rw [List.takeWhile_eq_self_iff]
      rintro char member
      rw [bne_iff_ne]
      rintro rfl
      apply noQuery
      rw [whole]
      exact List.mem_append_right _ (List.mem_cons_of_mem _ member)
    simp only [hasPort, ← last, unqueried, Bool.and_eq_true,
      List.all_eq_true, Bool.not_eq_true', List.isEmpty_eq_false_iff]
      at ported
    exact ⟨host, digits, whole, ported.2, ported.1⟩
  · rintro ⟨host, digits, rfl, nonempty, all⟩
    have last : (host ++ ':' :: digits).rtakeWhile (· != ':') = digits := by
      apply rtakeWhile_append_cons (by decide)
      intro char member
      rw [bne_iff_ne]
      exact digit_ne (all char member) (by decide)
    have unqueried : digits.takeWhile (· != '?') = digits := by
      rw [List.takeWhile_eq_self_iff]
      intro char member
      rw [bne_iff_ne]
      exact digit_ne (all char member) (by decide)
    simp only [hasPort, last, unqueried, Bool.and_eq_true, List.all_eq_true,
      Bool.not_eq_true', List.isEmpty_eq_false_iff]
    exact ⟨all, nonempty⟩

private theorem hasPort_beforeQuery (plain : ':' ∉ query uri) :
    hasPort (beforeQuery uri) = hasPort uri := by
  have field : uri.rtakeWhile (· != ':') =
      (beforeQuery uri).rtakeWhile (· != ':') ++ query uri := by
    conv_lhs => rw [← beforeQuery_append_query uri]
    apply rtakeWhile_append_of_all
    intro char member
    rw [bne_iff_ne]
    rintro rfl
    exact plain member
  have unqueried : ∀ char ∈ (beforeQuery uri).rtakeWhile (· != ':'),
      (char != '?') = true := by
    intro char member
    rw [bne_iff_ne]
    rintro rfl
    exact not_mem_beforeQuery uri
      ((List.rtakeWhile_suffix _ _).subset member)
  have stopped : (query uri).takeWhile (· != '?') = [] := by
    have first := List.head?_dropWhile_not (· != '?') uri
    rw [← query] at first
    cases rest : query uri with
    | nil => rfl
    | cons char more =>
        rw [rest] at first
        rw [List.takeWhile_cons, first]
        rfl
  simp only [hasPort, field]
  rw [List.takeWhile_append_of_pos unqueried, stopped, List.append_nil,
    List.takeWhile_eq_self_iff.mpr unqueried]

end Ports

section Found

variable {scheme tail rest : List Char}

private theorem scheme_plain (known : scheme ∈ schemes) {char : Char}
    (member : char ∈ scheme) : char ≠ '?' ∧ isStop char = false := by
  have checked : (schemes.all fun scheme =>
      scheme.all fun char => char != '?' && !isStop char) = true := rfl
  have kept := List.all_eq_true.mp
    (List.all_eq_true.mp checked scheme known) char member
  rwa [Bool.and_eq_true, bne_iff_ne, Bool.not_eq_true'] at kept

private theorem beforeQuery_uriAt (known : scheme ∈ schemes)
    (after : List Char) :
    beforeQuery (uriAt (scheme ++ after)) =
      scheme ++ location (uriAt (scheme ++ after)) := by
  have whole : uriAt (scheme ++ after) = scheme ++ uriAt after := by
    apply List.takeWhile_append_of_pos
    intro char member
    rw [(scheme_plain known member).2]
    rfl
  have front : beforeQuery (scheme ++ uriAt after) =
      scheme ++ beforeQuery (uriAt after) := by
    apply List.takeWhile_append_of_pos
    intro char member
    exact bne_iff_ne.mpr (scheme_plain known member).1
  have length : scheme.length = 6 := by
    obtain ⟨name, schemeEq, _, _, nameLength⟩ := scheme_eq known
    rw [schemeEq]
    simp [nameLength]
  rw [location, whole, front, List.drop_left' length]

private theorem plain_beforeQuery (tail : List Char) :
    ∀ char ∈ beforeQuery (uriAt tail), char ≠ '?' ∧ isStop char = false := by
  intro char member
  constructor
  · rintro rfl
    exact not_mem_beforeQuery _ member
  · have within := (List.takeWhile_prefix _).subset member
    have kept := List.mem_takeWhile_imp within
    rwa [Bool.not_eq_true'] at kept

private theorem colon_of_hasPort (known : scheme ∈ schemes)
    (ported : hasPort (scheme ++ rest) = true) : ':' ∈ rest := by
  by_contra absent
  obtain ⟨name, schemeEq, _⟩ := scheme_eq known
  have field : (scheme ++ rest).rtakeWhile (· != ':') =
      '/' :: '/' :: rest := by
    rw [schemeEq, List.append_assoc]
    apply rtakeWhile_append_cons (by decide)
    intro char member
    rw [bne_iff_ne]
    rintro rfl
    rcases List.mem_cons.mp member with slash | later
    · exact absurd slash (by decide)
    · rcases List.mem_cons.mp later with slash | inside
      · exact absurd slash (by decide)
      · exact absent inside
  rw [hasPort, field] at ported
  cases ported

private theorem socketAddrOf_isSome (known : scheme ∈ schemes) :
    (socketAddrOf (String.ofList (scheme ++ rest))).isSome = true ↔
      ':' ∈ (cut "://".toList rest).1 ∧
        ((cut "://".toList rest).1.head? = some '[' →
          "]:".toList <:+: (cut "://".toList rest).1) := by
  have parts : (cut "://".toList (scheme ++ rest)).2 = some rest := by
    obtain ⟨name, schemeEq, _, before, _⟩ := scheme_eq known
    rw [schemeEq, List.append_assoc]
    exact congrArg Prod.snd (cut_append_of_not_mem before)
  simp only [socketAddrOf, String.toList_ofList, parts, Option.bind_eq_bind,
    Option.bind_some]
  generalize (cut "://".toList rest).1 = between
  split
  · rename_i bracket
    split
    · rename_i closed
      exact iff_of_true rfl ⟨closed.subset (by decide), fun _ => closed⟩
    · rename_i unclosed
      exact iff_of_false (by decide) fun both => unclosed (both.2 bracket)
  · rename_i bare
    rw [← cutLast_isSome]
    cases cutLast ':' between with
    | none => exact iff_of_false (by decide) fun both => nomatch both.1
    | some parts =>
        exact iff_of_true rfl ⟨rfl, fun opened => absurd opened bare⟩

private theorem peerUri_iff_tidy (known : scheme ∈ schemes)
    (begins : scheme <+: tail)
    (ported : hasPort (uriAt tail) = true) :
    PeerUri (String.ofList (beforeQuery (uriAt tail))) ↔
      Tidy (uriAt tail) := by
  obtain ⟨after, rfl⟩ := begins
  have form := beforeQuery_uriAt known after
  have colon : ':' ∈ beforeQuery (uriAt (scheme ++ after)) := by
    obtain ⟨name, schemeEq, _⟩ := scheme_eq known
    rw [form]
    apply List.mem_append_left
    rw [schemeEq]
    exact List.mem_append_right _ List.mem_cons_self
  have port := hasPort_iff (not_mem_beforeQuery _) colon
  have address : (socketAddrOf (String.ofList
      (scheme ++ location (uriAt (scheme ++ after))))).isSome = true ↔ _ :=
    socketAddrOf_isSome known
  rw [← form] at address
  constructor
  · intro good
    have addressed := address.mp good.address
    have ends := good.port
    rw [String.toList_ofList] at ends
    exact
      { query := fun _ => port.mpr ends
        nested := fun _ => addressed.1
        closed := addressed.2 }
  · intro tidy
    have stillPorted :
        hasPort (beforeQuery (uriAt (scheme ++ after))) = true := by
      by_cases asked : ':' ∈ query (uriAt (scheme ++ after))
      · exact tidy.query asked
      · rw [hasPort_beforeQuery asked]
        exact ported
    have between : ':' ∈ authority (uriAt (scheme ++ after)) := by
      by_cases whole : authority (uriAt (scheme ++ after)) =
          location (uriAt (scheme ++ after))
      · rw [whole]
        rw [form] at stillPorted
        exact colon_of_hasPort known stillPorted
      · exact tidy.nested whole
    refine ⟨⟨scheme, known, ?_⟩, ?_, ?_, ?_⟩
    · rw [String.toList_ofList, form]
      exact List.prefix_append _ _
    · rw [String.toList_ofList]
      exact plain_beforeQuery _
    · rw [String.toList_ofList]
      exact port.mp stillPorted
    · exact address.mpr ⟨between, tidy.closed⟩

end Found

theorem extractPeerUris_plain (text : String) :
    ∃ uris, extractPeerUris text = some uris ∧ uris.Pairwise (· < ·) ∧
      ∀ uri ∈ uris, (∃ scheme ∈ schemes, scheme <+: uri.toList) ∧
        ∀ char ∈ uri.toList, char ≠ '?' ∧ isStop char = false := by
  obtain ⟨uris, runs, increasing, members⟩ := extractPeerUris_some text
  refine ⟨uris, runs, increasing, fun uri member => ?_⟩
  obtain ⟨scheme, known, tail, occurs, _, rfl⟩ := (members uri).mp member
  obtain ⟨after, rfl⟩ := (mem_occurrences.mp occurs).1
  rw [String.toList_ofList]
  refine ⟨⟨scheme, known, ?_⟩, plain_beforeQuery _⟩
  rw [beforeQuery_uriAt known after]
  exact List.prefix_append _ _

theorem peerUris_wellFormed_iff (text : String) :
    (∃ uris, extractPeerUris text = some uris ∧ uris.Pairwise (· < ·) ∧
      ∀ uri ∈ uris, PeerUri uri) ↔ Sound text := by
  obtain ⟨uris, runs, increasing, members⟩ := extractPeerUris_some text
  constructor
  · rintro ⟨others, sameRun, _, good⟩ scheme known tail occurs ported
    obtain rfl := Option.some.inj (runs.symm.trans sameRun)
    have found := good _ ((members _).mpr
      ⟨scheme, known, tail, occurs, ported, rfl⟩)
    exact (peerUri_iff_tidy known (mem_occurrences.mp occurs).1 ported).mp
      found
  · intro sound
    refine ⟨uris, runs, increasing, fun uri member => ?_⟩
    obtain ⟨scheme, known, tail, occurs, ported, rfl⟩ :=
      (members uri).mp member
    exact (peerUri_iff_tidy known (mem_occurrences.mp occurs).1 ported).mpr
      (sound scheme known tail occurs ported)

/-- The digits that pass for a port stand in the query, which is cut off. -/
theorem queryPort_malformed :
    extractPeerUris "tls://host?x=a:443" = some ["tls://host"] ∧
      ¬ ∃ uris, extractPeerUris "tls://host?x=a:443" = some uris ∧
        uris.Pairwise (· < ·) ∧ ∀ uri ∈ uris, PeerUri uri := by
  have runs : extractPeerUris "tls://host?x=a:443" = some ["tls://host"] := by
    decide +kernel
  refine ⟨runs, ?_⟩
  rintro ⟨uris, sameRun, _, good⟩
  obtain rfl := Option.some.inj (runs.symm.trans sameRun)
  have address := (good "tls://host" List.mem_cons_self).address
  revert address
  decide +kernel

-- A scheme inside another URI has its own, and takes the first one's address.
example : (extractPeerUris "tls://tcp://h:1").map (List.map socketAddrOf) =
    some [some "h:1", none] := by decide +kernel

example : (extractPeerUris "tls://[2001:db8::1:443").map
    (List.map socketAddrOf) = some [none] := by decide +kernel

end PeerUris

end Accord
