import ScopedShell.Document
import ScopedShell.Proofs.Outcome

/-!
# Documents of plain entries

The simplest documents of settings are block mappings whose keys and values are plain scalars. Their
entries are read as they are written and in the same order (`readBlockEntries_of_plain`), whatever
the number of entries (`Node.ofTokens_of_plain`), and such a document is the mapping of what its keys
and values are on their own (`read_of_plain`).
-/

namespace ScopedShell

namespace Document

namespace NodeReader

variable {r : NodeReader} {rest : List Token} {text : Text}

theorem readNode_of_scalar (bound : Nat) (place : Place)
    (h : r.tokens = .scalar text true :: rest) :
    readNode (bound + 1) place r = .ok (.scalar text true none, { r with tokens := rest }) := by
  obtain ⟨tokens, fault, named, handles⟩ := r
  subst h
  rw [readNode]
  rfl

theorem readNodeUnless_of_scalar (bound : Nat) (place : Place) {ends : List Token}
    (hends : .scalar text true ∉ ends) (h : r.tokens = .scalar text true :: rest) :
    readNodeUnless (bound + 1) place ends r =
      .ok (.scalar text true none, { r with tokens := rest }) := by
  have hat : r.isAt ends = .ok false := by
    rw [isAt, peek, h]
    exact congrArg Except.ok (decide_eq_false hends)
  rw [readNodeUnless, hat]
  exact readNode_of_scalar bound place h

theorem readBlockValue_of_scalar (bound : Nat)
    (h : r.tokens = .value :: .scalar text true :: rest) :
    readBlockValue (bound + 2) r = .ok (.scalar text true none, { r with tokens := rest }) := by
  have hdrop : r.drop.tokens = .scalar text true :: rest := congrArg List.tail h
  rw [readBlockValue, peek, h]
  exact readNodeUnless_of_scalar bound inMapping (by simp) hdrop

/-- The tokens of entries whose keys and values are plain scalars. -/
def plainTokens (entries : List (Text × Text)) : List Token :=
  entries.flatMap fun entry => [.key, .scalar entry.1 true, .value, .scalar entry.2 true]

def plainNodes (entries : List (Text × Text)) : List (Node × Node) :=
  entries.map fun entry => (.scalar entry.1 true none, .scalar entry.2 true none)

theorem length_plainTokens (entries : List (Text × Text)) :
    (plainTokens entries).length = 4 * entries.length := by
  rw [plainTokens, List.length_flatMap]
  induction entries with
  | nil => rfl
  | cons entry entries ih =>
    rw [List.map_cons, List.sum_cons, ih]
    exact (Nat.add_comm _ _).trans (Nat.mul_succ 4 entries.length).symm

/-- The entries of a block mapping are read in the order in which they are written. -/
theorem readBlockEntries_of_plain (bound : Nat) (entries : List (Text × Text))
    (h : r.tokens = plainTokens entries ++ .blockEnd :: rest) :
    readBlockEntries (bound + entries.length + 3) r =
      .ok (plainNodes entries, { r with tokens := rest }) := by
  induction entries generalizing r with
  | nil =>
    have hdrop : r.drop = { r with tokens := rest } := congrArg ({ r with tokens := ·.tail }) h
    rw [readBlockEntries, peek, h, ← hdrop]
    rfl
  | cons entry entries ih =>
    let behindKey : NodeReader := { r with tokens := .value :: .scalar entry.2 true ::
      (plainTokens entries ++ .blockEnd :: rest) }
    let behindValue : NodeReader := { r with tokens := plainTokens entries ++ .blockEnd :: rest }
    have hkey : readNodeUnless (bound + entries.length + 3) inMapping [.key, .value, .blockEnd]
        r.drop = .ok (.scalar entry.1 true none, behindKey) :=
      readNodeUnless_of_scalar _ _ (by simp) (congrArg List.tail h)
    have hvalue : readBlockValue (bound + entries.length + 3) behindKey =
        .ok (.scalar entry.2 true none, behindValue) := readBlockValue_of_scalar _ rfl
    have hrest := @ih behindValue rfl
    have hpeek : r.peek = .ok .key := by
      rw [peek, h]
      rfl
    rw [List.length_cons, ← Nat.add_assoc, Nat.add_right_comm, readBlockEntries]
    exact bind_eq_ok_iff.2 ⟨_, hpeek, bind_eq_ok_iff.2 ⟨_, hkey, bind_eq_ok_iff.2 ⟨_, hvalue,
      bind_eq_ok_iff.2 ⟨_, hrest, rfl⟩⟩⟩⟩

end NodeReader

open NodeReader

theorem Node.ofTokens_of_plain {s : TokenStream} {entries : List (Text × Text)}
    (h : s = ⟨.blockMappingStart :: (plainTokens entries ++ [.blockEnd, .streamEnd]), none⟩) :
    Node.ofTokens s = .ok (some (.mapping (plainNodes entries) none)) := by
  let inside : NodeReader :=
    ⟨plainTokens entries ++ [.blockEnd, .streamEnd], none, [], defaultHandles⟩
  let start : NodeReader := { inside with tokens := .blockMappingStart :: inside.tokens }
  let finish : NodeReader := { inside with tokens := [.streamEnd] }
  have hbound : 4 * s.tokens.length + 4 = 15 * entries.length + 12 + entries.length + 3 + 1 := by
    rw [h, List.length_cons, List.length_append, length_plainTokens]
    change 4 * (4 * entries.length + 2 + 1) + 4 = _
    omega
  have hentries := @readBlockEntries_of_plain inside _ (15 * entries.length + 12) entries rfl
  have hnode : readNode (15 * entries.length + 12 + entries.length + 3 + 1) inBlock start =
      .ok (.mapping (plainNodes entries) none, finish) := by
    rw [readNode]
    change (readBlockEntries _ inside >>= fun result =>
      .ok (Node.mapping result.1 none, result.2)) = _
    rw [hentries]
    rfl
  rw [Node.ofTokens, hbound, h]
  change (readNode _ inBlock start >>= fun result =>
    (checkEnd _ result.2 >>= fun _ => .ok (some result.1))) = _
  rw [hnode]
  rfl

/-- Every key and every value of the entries has a value on its own, and no key merges others. -/
structure HaveValues (entries : List (Text × Text)) (key value : Text → Data) : Prop where
  ne_mergeKey : ∀ entry ∈ entries, entry.1 ≠ mergeKey
  key_eq : ∀ entry ∈ entries, scalarValue true entry.1 true none = .ok (key entry.1)
  value_eq : ∀ entry ∈ entries, scalarValue false entry.2 true none = .ok (value entry.2)

section

variable {entries : List (Text × Text)} {key value : Text → Data}

theorem mergedEntries_of_plain (h : HaveValues entries key value) (depth : Nat) :
    mergedEntries (depth + 1) (plainNodes entries) = .ok (plainNodes entries) := by
  have hmerge : ∀ node ∈ plainNodes entries, isMerge node.1 = false := by
    intro node hnode
    obtain ⟨entry, hentry, rfl⟩ := List.mem_map.1 hnode
    exact beq_false_of_ne (h.ne_mergeKey entry hentry)
  have hnone : (plainNodes entries).filter (fun node => isMerge node.1) = [] :=
    List.filter_eq_nil_iff.2 fun node hnode => Bool.eq_false_iff.1 (hmerge node hnode)
  have hall : (plainNodes entries).filter (fun node => !isMerge node.1) = plainNodes entries :=
    List.filter_eq_self.2 fun node hnode => by rw [hmerge node hnode]; rfl
  rw [mergedEntries, hnone, hall]
  rfl

theorem lookInside_of_plain (h : HaveValues entries key value) (depth : Nat) :
    lookInside (depth + 1) (.mapping (plainNodes entries) none) = .ok [] := by
  have hlook : (plainNodes entries).mapM lookAtEntry = .ok (entries.map fun _ => []) := by
    refine mapM_map_eq_ok fun entry hentry => ?_
    rw [lookAtEntry, look, h.key_eq entry hentry]
    change look false (.scalar entry.2 true none) = _
    rw [look, h.value_eq entry hentry]
    rfl
  have hnothing : (entries.map fun _ => ([] : List Node)).flatten = [] :=
    List.flatten_eq_nil_iff.2 fun later hlater => by
      obtain ⟨_, _, rfl⟩ := List.mem_map.1 hlater
      rfl
  rw [lookInside, mergedEntries_of_plain h depth]
  change ((plainNodes entries).mapM lookAtEntry >>= fun later => .ok later.flatten) = _
  rw [hlook]
  exact congrArg Except.ok hnothing

theorem dataOf_of_plain (h : HaveValues entries key value) (depth : Nat) :
    dataOf (depth + 1) false (.mapping (plainNodes entries) none) =
      .ok (mappingOf (entries.map fun entry => (key entry.1, value entry.2))) := by
  have hpairs : ((plainNodes entries).mapM fun entry => do
      let key ← dataOf depth true entry.1
      let value ← dataOf depth false entry.2
      return (key, value)) = .ok (entries.map fun entry => (key entry.1, value entry.2)) := by
    refine mapM_map_eq_ok fun entry hentry => ?_
    rw [dataOf, h.key_eq entry hentry]
    change (dataOf depth false (.scalar entry.2 true none) >>= fun value => _) = _
    rw [dataOf, h.value_eq entry hentry]
    rfl
  rw [dataOf, mergedEntries_of_plain h depth]
  exact bind_eq_ok_iff.2 ⟨_, rfl, bind_eq_ok_iff.2 ⟨_, hpairs, rfl⟩⟩

/-- A document of plain entries is the mapping of what its keys and its values are on their own. -/
theorem read_of_plain {t : Text}
    (htokens : tokensOf (normalLines t) =
      ⟨.blockMappingStart :: (plainTokens entries ++ [.blockEnd, .streamEnd]), none⟩)
    (h : HaveValues entries key value) :
    read t = .ok (mappingOf (entries.map fun entry => (key entry.1, value entry.2))) := by
  let node := Node.mapping (plainNodes entries) none
  rw [read, Node.ofTokens_of_plain htokens]
  change (lookThrough _ [node] >>= fun _ => dataOf _ false node) = _
  refine bind_eq_ok_iff.2 ⟨(), ?_, dataOf_of_plain h _⟩
  change ([node].mapM (lookInside _) >>= fun later => lookThrough _ later.flatten) = _
  rw [List.mapM_cons, lookInside_of_plain h _]
  rfl

end

end Document

end ScopedShell
