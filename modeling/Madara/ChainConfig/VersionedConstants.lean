import Mathlib

/-! The versioned constants of a chain config (`chain_config.rs`). The `BTreeMap` is its
entry list in the ascending order its iterator yields, strictly ascending as a field.
`exec_constants_by_protocol_version` scans that list backwards and stops at the first
key at or below the requested version: the greatest such key. -/
namespace Madara.Chain

variable {K V : Type} [LinearOrder K]

/-- `ChainVersionedConstants(BTreeMap<StarknetVersion, VersionedConstants>)`. -/
structure ChainVersionedConstants (K V : Type) [LinearOrder K] where
  entries : List (K × V)
  ascending : entries.Pairwise (fun a b => a.1 < b.1)

namespace ChainVersionedConstants

/-- `BTreeMap::get`. -/
def get? (m : ChainVersionedConstants K V) (k : K) : Option V :=
  (m.entries.find? (fun e => e.1 = k)).map Prod.snd

/-- `BTreeMap::insert` on the ascending entry list; an existing key's value is replaced. -/
def insertEntry (k : K) (v : V) : List (K × V) → List (K × V)
  | [] => [(k, v)]
  | e :: rest =>
    if k < e.1 then (k, v) :: e :: rest
    else if k = e.1 then (k, v) :: rest
    else e :: insertEntry k v rest

theorem mem_insertEntry {k : K} {v : V} {rest : List (K × V)} {e : K × V}
    (member : e ∈ insertEntry k v rest) : e = (k, v) ∨ e ∈ rest := by
  induction rest with
  | nil => simpa [insertEntry] using member
  | cons head rest ih =>
    unfold insertEntry at member
    split_ifs at member <;> aesop

theorem insertEntry_ascending {k : K} {v : V} :
    ∀ {entries : List (K × V)}, entries.Pairwise (fun a b => a.1 < b.1) →
      (insertEntry k v entries).Pairwise (fun a b => a.1 < b.1)
  | [], _ => List.pairwise_singleton _ _
  | head :: rest, ascending => by
    rw [List.pairwise_cons] at ascending
    unfold insertEntry
    split_ifs with below same
    · exact List.Pairwise.cons (fun e member => by
        rcases List.mem_cons.mp member with rfl | member
        exacts [below, below.trans (ascending.1 e member)]) (ascending.2.cons ascending.1)
    · subst same
      exact ascending.2.cons ascending.1
    · refine List.Pairwise.cons (fun e member => ?_) (insertEntry_ascending ascending.2)
      rcases mem_insertEntry member with rfl | member
      exacts [lt_of_le_of_ne (not_lt.mp below) (Ne.symm same), ascending.1 e member]

def insert (m : ChainVersionedConstants K V) (k : K) (v : V) : ChainVersionedConstants K V :=
  ⟨insertEntry k v m.entries, insertEntry_ascending m.ascending⟩

def empty : ChainVersionedConstants K V := ⟨[], List.Pairwise.nil⟩

/-- `From<[(StarknetVersion, VersionedConstants); N]>`: the array collected into a map. -/
def ofArray (arr : List (K × V)) : ChainVersionedConstants K V :=
  arr.foldl (fun m e => m.insert e.1 e.2) empty

theorem find?_insertEntry (k j : K) (v : V) (entries : List (K × V)) :
    ((insertEntry k v entries).find? (fun e => e.1 = j)).map Prod.snd =
      if k = j then some v else (entries.find? (fun e => e.1 = j)).map Prod.snd := by
  induction entries with
  | nil => by_cases same : k = j <;> simp [insertEntry, same]
  | cons e rest ih =>
    unfold insertEntry
    by_cases same : k = j <;> by_cases found : e.1 = j <;> split_ifs <;>
      simp_all [List.find?_cons]

theorem get?_insert (m : ChainVersionedConstants K V) (k j : K) (v : V) :
    (m.insert k v).get? j = if k = j then some v else m.get? j :=
  find?_insertEntry k j v m.entries

theorem get?_ofArray (arr : List (K × V)) (j : K) :
    (ofArray arr).get? j = (arr.reverse.find? (fun e => e.1 = j)).map Prod.snd := by
  suffices ∀ m : ChainVersionedConstants K V, (arr.foldl (fun m e => m.insert e.1 e.2) m).get? j =
      ((arr.reverse.find? (fun e => e.1 = j)).map Prod.snd).or (m.get? j) by
    simpa [ofArray, empty, get?] using this empty
  induction arr with
  | nil => simp
  | cons e rest ih =>
    intro m
    rw [List.foldl_cons, ih, get?_insert, List.reverse_cons, List.find?_append]
    by_cases same : e.1 = j <;> cases rest.reverse.find? (fun e => e.1 = j) <;> simp [same]

end ChainVersionedConstants

structure UnsupportedProtocolVersion (K : Type) where
  version : K
  deriving DecidableEq

/-- The loop `for (k, constants) in iter().rev()` over the entries still to visit. -/
def scanBelow (version : K) : List (K × V) → Except (UnsupportedProtocolVersion K) V
  | [] => .error ⟨version⟩
  | (k, constants) :: rest => if k ≤ version then .ok constants else scanBelow version rest

def execConstantsByProtocolVersion (versionedConstants : ChainVersionedConstants K V)
    (version : K) : Except (UnsupportedProtocolVersion K) V :=
  scanBelow version versionedConstants.entries.reverse

theorem ChainVersionedConstants.mem_of_get? {m : ChainVersionedConstants K V} {k : K} {c : V}
    (found : m.get? k = some c) : (k, c) ∈ m.entries := by
  obtain ⟨e, hit, rfl⟩ := Option.map_eq_some'.mp found
  have same : e.1 = k := by simpa using List.find?_some hit
  exact same ▸ List.mem_of_find?_eq_some hit

theorem scanBelow_greatest {version k : K} {c : V} :
    ∀ {entries : List (K × V)}, entries.Pairwise (fun a b => b.1 < a.1) → (k, c) ∈ entries →
      k ≤ version → (∀ e ∈ entries, e.1 ≤ version → e.1 ≤ k) →
      scanBelow version entries = .ok c
  | [], _, member, _, _ => absurd member (List.not_mem_nil _)
  | (k', c') :: rest, descending, member, below, greatest => by
    rw [List.pairwise_cons] at descending
    have head := greatest (k', c') (List.mem_cons_self _ _)
    unfold scanBelow
    split_ifs with here <;> rcases List.mem_cons.mp member with same | member
    · cases same; rfl
    · exact absurd (head here) (not_le.mpr (descending.1 _ member))
    · cases same; exact absurd below here
    · exact scanBelow_greatest descending.2 member below
        (fun e member => greatest e (List.mem_cons_of_mem _ member))

theorem scanBelow_eq_error_iff {version : K} :
    ∀ {entries : List (K × V)},
      scanBelow version entries = .error ⟨version⟩ ↔ ∀ e ∈ entries, version < e.1
  | [] => by simp [scanBelow]
  | (k, c) :: rest => by
    unfold scanBelow
    split_ifs with here
    · exact ⟨nofun, fun above => absurd (above _ (List.mem_cons_self _ _)) (not_lt.mpr here)⟩
    · simp [scanBelow_eq_error_iff, lt_of_not_le here]

theorem execConstants_greatest_at_most (m : ChainVersionedConstants K V) (version : K) :
    (∀ k c, m.get? k = some c → k ≤ version →
      (∀ e ∈ m.entries, e.1 ≤ version → e.1 ≤ k) →
      execConstantsByProtocolVersion m version = .ok c) ∧
    (execConstantsByProtocolVersion m version = .error ⟨version⟩ ↔
      ∀ e ∈ m.entries, version < e.1) := by
  have descending : m.entries.reverse.Pairwise (fun a b => b.1 < a.1) :=
    List.pairwise_reverse.mpr m.ascending
  refine ⟨fun k c found below greatest => ?_, ?_⟩
  · exact scanBelow_greatest descending
      (List.mem_reverse.mpr (ChainVersionedConstants.mem_of_get? found)) below
      (fun e member => greatest e (List.mem_reverse.mp member))
  · simp only [execConstantsByProtocolVersion, scanBelow_eq_error_iff, List.mem_reverse]

/-- `test_exec_constants`, with versions `0.1.5` and `0.2.0` written as `150` and `200`. -/
example : execConstantsByProtocolVersion (ChainVersionedConstants.ofArray [(150, 5), (200, 10)]) 170 =
    (.ok 5 : Except (UnsupportedProtocolVersion Nat) Nat) := rfl

end Madara.Chain
