import Mathlib.Logic.Relation
import ScopedShell.Proofs.Path.Descent
import ScopedShell.Session.Operation

/-!
# The shortest way from one path to another

Taking `..` away without a file system is a rewriting of parts, `Cancels`: a name disappears with
the `..` behind it, and a `..` at the root disappears alone. However it is done, what remains once
no `..` is left is what `cancelParents` computes (`isPlainOf_iff`).

A way is a list of parts that is carried out from a plain start. One part changes the length of the
start by one and its agreement with the target by at most one, so a way has at least as many parts
as the two lists have beyond their common front, and only one way has no more (`length_le_of_leads`,
`eq_of_leads_of_length_le`). It is the one that `Path.relativeTo` gives.
-/

namespace ScopedShell

namespace Path

/-! ## Plain parts -/

/-- One `..` of an absolute path is carried out: it takes the name before it away, and nothing at
the root. -/
inductive Cancels : List Text → List Text → Prop
  | name (front : List Text) {name : Text} (rest : List Text) (hname : name ≠ parentPart) :
      Cancels (front ++ name :: parentPart :: rest) (front ++ rest)
  | root (rest : List Text) : Cancels (parentPart :: rest) rest

/-- What remains of the parts of an absolute path when every `..` has been carried out. -/
structure IsPlainOf (plain parts : List Text) : Prop where
  cancels : Relation.ReflTransGen Cancels parts plain
  parentPart_notMem : parentPart ∉ plain

@[simp] theorem pushPlain_parentPart (plain : List Text) :
    pushPlain plain parentPart = plain.dropLast :=
  if_pos rfl

theorem pushPlain_name (plain : List Text) {name : Text} (hname : name ≠ parentPart) :
    pushPlain plain name = plain ++ [name] :=
  if_neg hname

theorem parentPart_notMem_pushPlain {plain : List Text} (h : parentPart ∉ plain) (part : Text) :
    parentPart ∉ pushPlain plain part := by
  by_cases hpart : part = parentPart
  · rw [hpart, pushPlain_parentPart]
    exact fun hmem => h (List.dropLast_subset _ hmem)
  · rw [pushPlain_name plain hpart, List.mem_append, List.mem_singleton]
    exact not_or.2 ⟨h, fun heq => hpart heq.symm⟩

theorem parentPart_notMem_foldl {plain : List Text} (h : parentPart ∉ plain) (parts : List Text) :
    parentPart ∉ parts.foldl pushPlain plain := by
  induction parts generalizing plain with
  | nil => exact h
  | cons part parts ih => exact ih (parentPart_notMem_pushPlain h part)

theorem parentPart_notMem_cancelParents (parts : List Text) : parentPart ∉ cancelParents parts :=
  parentPart_notMem_foldl List.not_mem_nil parts

theorem foldl_pushPlain_names {names : List Text} (h : parentPart ∉ names) (plain : List Text) :
    names.foldl pushPlain plain = plain ++ names := by
  induction names generalizing plain with
  | nil => exact (List.append_nil plain).symm
  | cons name names ih =>
    obtain ⟨hname, hnames⟩ := not_or.1 (mt List.mem_cons.2 h)
    rw [List.foldl_cons, pushPlain_name plain (Ne.symm hname), ih hnames, List.append_assoc,
      List.singleton_append]

theorem foldl_pushPlain_parents (n : Nat) (plain : List Text) :
    (List.replicate n parentPart).foldl pushPlain plain = plain.take (plain.length - n) := by
  induction n generalizing plain with
  | zero => simp
  | succ n ih =>
    rw [List.replicate_succ, List.foldl_cons, pushPlain_parentPart, ih, List.length_dropLast,
      List.dropLast_eq_take, List.take_take, Nat.min_eq_left (Nat.sub_le _ _), Nat.sub_sub,
      Nat.add_comm]

theorem cancelParents_of_cancels {parts parts' : List Text} (h : Cancels parts parts') :
    cancelParents parts = cancelParents parts' := by
  cases h with
  | name front rest hname =>
    simp only [cancelParents, List.foldl_append, List.foldl_cons, pushPlain_name _ hname,
      pushPlain_parentPart, List.dropLast_concat]
  | root rest => rfl

/-- Carrying the parts out one by one is one way of cancelling. -/
theorem cancels_foldl {plain : List Text} (h : parentPart ∉ plain) (parts : List Text) :
    Relation.ReflTransGen Cancels (plain ++ parts) (parts.foldl pushPlain plain) := by
  induction parts generalizing plain with
  | nil => rw [List.append_nil, List.foldl_nil]
  | cons part parts ih =>
    have hrest := ih (parentPart_notMem_pushPlain h part)
    by_cases hpart : part = parentPart
    · subst hpart
      refine Relation.ReflTransGen.head ?_ hrest
      rw [pushPlain_parentPart]
      rcases List.eq_nil_or_concat plain with rfl | ⟨front, name, rfl⟩
      · exact .root parts
      · rw [List.concat_eq_append, List.dropLast_concat, List.append_assoc, List.singleton_append]
        exact .name front parts fun heq => h (by simp [heq])
    · rw [List.foldl_cons]
      rw [pushPlain_name plain hpart, List.append_assoc, List.singleton_append] at hrest
      rwa [pushPlain_name plain hpart]

theorem cancelParents_of_reflTransGen {parts parts' : List Text}
    (h : Relation.ReflTransGen Cancels parts parts') :
    cancelParents parts = cancelParents parts' := by
  induction h with
  | refl => rfl
  | tail _ hstep ih => exact ih.trans (cancelParents_of_cancels hstep)

/-- In whatever order every `..` is carried out, the same parts remain. -/
theorem isPlainOf_iff {plain parts : List Text} :
    IsPlainOf plain parts ↔ plain = cancelParents parts := by
  constructor
  · intro h
    rw [cancelParents_of_reflTransGen h.cancels, cancelParents,
      foldl_pushPlain_names h.parentPart_notMem, List.nil_append]
  · rintro rfl
    exact ⟨cancels_foldl List.not_mem_nil parts, parentPart_notMem_cancelParents parts⟩

/-! ## The common front -/

structure IsCommonFront (common a b : List Text) : Prop where
  left : common <+: a
  right : common <+: b
  longest : ∀ front, front <+: a → front <+: b → front <+: common

theorem commonLength_le_left (a b : List Text) : commonLength a b ≤ a.length := by
  induction a, b using commonLength.induct <;> simp_all [commonLength]

theorem commonLength_le_right (a b : List Text) : commonLength a b ≤ b.length := by
  induction a, b using commonLength.induct <;> simp_all [commonLength]

theorem take_commonLength (a b : List Text) :
    a.take (commonLength a b) = b.take (commonLength a b) := by
  induction a, b using commonLength.induct <;> simp_all [commonLength]

theorem length_le_commonLength {front a b : List Text} (ha : front <+: a) (hb : front <+: b) :
    front.length ≤ commonLength a b := by
  induction front generalizing a b with
  | nil => exact Nat.zero_le _
  | cons part front ih =>
    obtain ⟨a, rfl⟩ := ha
    obtain ⟨b, rfl⟩ := hb
    simpa [commonLength] using ih (List.prefix_append front a) (List.prefix_append front b)

@[simp] theorem commonLength_self (a : List Text) : commonLength a a = a.length :=
  Nat.le_antisymm (commonLength_le_left a a)
    (length_le_commonLength (List.prefix_refl a) (List.prefix_refl a))

theorem isCommonFront_take (a b : List Text) : IsCommonFront (a.take (commonLength a b)) a b where
  left := List.take_prefix _ _
  right := take_commonLength a b ▸ List.take_prefix _ _
  longest front ha hb := List.prefix_of_prefix_length_le ha (List.take_prefix _ _) (by
    rw [List.length_take, Nat.min_eq_left (commonLength_le_left a b)]
    exact length_le_commonLength ha hb)

theorem commonLength_dropLast_le (a b : List Text) :
    commonLength a.dropLast b ≤ commonLength a b := by
  have hlength := length_le_commonLength (a := a) (b := b)
    ((List.take_prefix (commonLength a.dropLast b) _).trans (List.dropLast_prefix a))
    (take_commonLength a.dropLast b ▸ List.take_prefix _ _)
  rwa [List.length_take, Nat.min_eq_left (commonLength_le_left _ b)] at hlength

/-- One more part lengthens the common front by at most one, and then it is the part with which the
other list goes on. -/
theorem commonLength_concat (a b : List Text) (part : Text) :
    commonLength (a ++ [part]) b = commonLength a b ∨
      commonLength (a ++ [part]) b = a.length + 1 ∧ commonLength a b = a.length ∧
        b.drop a.length = part :: b.drop (a.length + 1) := by
  induction a generalizing b with
  | nil =>
    cases b with
    | nil => exact Or.inl rfl
    | cons q b =>
      by_cases h : part = q
      · exact Or.inr (by simp [commonLength, h])
      · exact Or.inl (by simp [commonLength, h])
  | cons first a ih =>
    cases b with
    | nil => exact Or.inl rfl
    | cons q b =>
      by_cases h : first = q
      · simpa [commonLength, h] using ih b
      · exact Or.inl (by simp [commonLength, h])

/-! ## Ways -/

/-- A way has at least the parts that climb to the common front and descend from it. -/
theorem length_le_of_leads {way start target : List Text}
    (h : way.foldl pushPlain start = target) :
    start.length + target.length ≤ way.length + 2 * commonLength start target := by
  induction way generalizing start with
  | nil =>
    subst h
    rw [List.foldl_nil, commonLength_self, List.length_nil]
    omega
  | cons part way ih =>
    have hrest := ih h
    rw [List.length_cons]
    by_cases hpart : part = parentPart
    · have hcommon := commonLength_dropLast_le start target
      rw [hpart, pushPlain_parentPart, List.length_dropLast] at hrest
      omega
    · rw [pushPlain_name start hpart, List.length_append, List.length_singleton] at hrest
      rcases commonLength_concat start target part with hcommon | ⟨hcommon, hall, -⟩ <;> omega

theorem eq_of_leads_of_length_le {way start target : List Text}
    (h : way.foldl pushPlain start = target)
    (hlength : way.length + 2 * commonLength start target ≤ start.length + target.length) :
    way = List.replicate (start.length - commonLength start target) parentPart ++
      target.drop (commonLength start target) := by
  induction way generalizing start with
  | nil =>
    subst h
    rw [List.foldl_nil, commonLength_self, Nat.sub_self, List.drop_length]
    rfl
  | cons part way ih =>
    have hrest : (pushPlain start part).length + target.length ≤
        way.length + 2 * commonLength (pushPlain start part) target := length_le_of_leads h
    have hway := ih h
    rw [List.length_cons] at hlength
    by_cases hpart : part = parentPart
    · -- The `..` that comes first takes a part away which the target does not share.
      have hshorter := commonLength_dropLast_le start target
      have hleft := commonLength_le_left start.dropLast target
      rw [hpart, pushPlain_parentPart, List.length_dropLast] at hrest hway
      rw [List.length_dropLast] at hleft
      have hcommon : commonLength start.dropLast target = commonLength start target := by omega
      have hcount : start.length - commonLength start target =
          start.length - 1 - commonLength start target + 1 := by omega
      rw [hway (by omega), hpart, hcommon, hcount, List.replicate_succ, List.cons_append]
    · -- A name that comes first is the one with which the target goes on behind the start.
      rw [pushPlain_name start hpart, List.length_append, List.length_singleton] at hrest hway
      rcases commonLength_concat start target part with hcommon | ⟨hcommon, hall, hnext⟩
      · omega
      · rw [hway (by omega), hcommon, hall, Nat.sub_self, Nat.sub_self, hnext]
        rfl

theorem parts_relativeTo (base target : Path) :
    (base.relativeTo target).parts =
      List.replicate
          (base.plainParts.length - commonLength base.plainParts target.plainParts) parentPart ++
        target.plainParts.drop (commonLength base.plainParts target.plainParts) :=
  rfl

theorem leads_relativeTo (base target : Path) :
    (base.relativeTo target).parts.foldl pushPlain base.plainParts = target.plainParts := by
  have hleft := commonLength_le_left base.plainParts target.plainParts
  have hnames : parentPart ∉
      target.plainParts.drop (commonLength base.plainParts target.plainParts) :=
    fun h => parentPart_notMem_cancelParents _ (List.mem_of_mem_drop h)
  rw [parts_relativeTo, List.foldl_append, foldl_pushPlain_parents, foldl_pushPlain_names hnames,
    Nat.sub_sub_self hleft, take_commonLength, List.take_append_drop]

/-- What is reached by a relative path depends on the plain parts of the path from which it
starts. -/
theorem plainParts_join {p q : Path} (hq : q.isAbsolute = false) :
    (p.join q).plainParts = q.parts.foldl pushPlain p.plainParts := by
  rw [plainParts, cancelParents, parts_join, if_pos (root_of_isAbsolute_eq_false hq),
    List.foldl_append]
  rfl

/-- Every other relative path that leads to the target has more parts. -/
theorem eq_relativeTo_or_length_lt {base target other : Path} (hother : other.isAbsolute = false)
    (h : (base.join other).plainParts = target.plainParts) :
    other = base.relativeTo target ∨
      (base.relativeTo target).parts.length < other.parts.length := by
  rw [plainParts_join hother] at h
  have hbase := commonLength_le_left base.plainParts target.plainParts
  have htarget := commonLength_le_right base.plainParts target.plainParts
  have hway : (base.relativeTo target).parts.length +
      2 * commonLength base.plainParts target.plainParts =
        base.plainParts.length + target.plainParts.length := by
    rw [parts_relativeTo, List.length_append, List.length_replicate, List.length_drop]
    omega
  by_cases hlength : other.parts.length ≤ (base.relativeTo target).parts.length
  · exact Or.inl (Path.ext (root_of_isAbsolute_eq_false hother)
      (eq_of_leads_of_length_le h (by omega)))
  · exact Or.inr (by omega)

theorem parts_relativeTo_eq_nil_iff {base target : Path} :
    (base.relativeTo target).parts = [] ↔ base.plainParts = target.plainParts := by
  constructor
  · intro h
    have hleads := leads_relativeTo base target
    rwa [h] at hleads
  · intro h
    rw [parts_relativeTo, h, commonLength_self, Nat.sub_self, List.drop_length]
    rfl

theorem text_eq_dot_iff {p : Path} (h : p.isAbsolute = false) : p.text = ['.'] ↔ p.parts = [] := by
  constructor
  · intro htext
    rw [← p.ofText_text, htext]
    rfl
  · intro hparts
    rw [text, root_of_isAbsolute_eq_false h, hparts]

end Path

namespace Session

/-- The relative path from a base to a path climbs from the base to the common front of both and
descends from there. It leads from the base to the path, every other relative path that does so has
more parts, and it is a dot exactly if base and path are the same once every `..` is carried out. -/
theorem relativeTo_shortest_way (s : Session) (base path : PathArgument) :
    ∃ (way : Path) (start target common names : List Text),
      perform (.relativeTo base path) s = (⟨.ok (.path way), []⟩, s) ∧
      Path.IsPlainOf start (s.absolute base).parts ∧
      Path.IsPlainOf target (s.absolute path).parts ∧
      Path.IsCommonFront common start target ∧
      way.isAbsolute = false ∧
      way.parts = List.replicate (start.length - common.length) parentPart ++ names ∧
      parentPart ∉ names ∧
      Path.IsPlainOf target ((PathArgument.path (s.absolute base)).join (.path (.path way))).parts ∧
      (∀ other : Path, other.isAbsolute = false →
        Path.IsPlainOf target
          ((PathArgument.path (s.absolute base)).join (.path (.path other))).parts →
        other = way ∨ way.parts.length < other.parts.length) ∧
      (way.text = ['.'] ↔ start = target) := by
  let p := s.absolute base
  let q := s.absolute path
  refine ⟨p.relativeTo q, p.plainParts, q.plainParts,
    p.plainParts.take (Path.commonLength p.plainParts q.plainParts),
    q.plainParts.drop (Path.commonLength p.plainParts q.plainParts), rfl, Path.isPlainOf_iff.2 rfl,
    Path.isPlainOf_iff.2 rfl, Path.isCommonFront_take _ _, rfl, ?_,
    fun h => Path.parentPart_notMem_cancelParents _ (List.mem_of_mem_drop h), ?_, ?_,
    (Path.text_eq_dot_iff rfl).trans Path.parts_relativeTo_eq_nil_iff⟩
  · rw [List.length_take, Nat.min_eq_left (Path.commonLength_le_left _ _)]
    exact Path.parts_relativeTo p q
  · rw [PathArgument.join_path, Path.isPlainOf_iff]
    exact ((Path.plainParts_join rfl).trans (Path.leads_relativeTo p q)).symm
  · intro other hother hleads
    rw [PathArgument.join_path, Path.isPlainOf_iff] at hleads
    exact Path.eq_relativeTo_or_length_lt hother hleads.symm

/-- No part climbs above the root, and parts are compared as a whole. -/
example : ((Path.ofText "/a/../../c/d".toList).relativeTo (Path.ofText "/c/de".toList)).text =
    "../de".toList := by
  decide

end Session

end ScopedShell
