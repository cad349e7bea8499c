import ScopedShell.Path.Argument
import ScopedShell.Proofs.Path.Descent
import ScopedShell.Proofs.Text.Splitting

/-!
# Extensions

The extension is looked for in the last part of a path, and taken away at the last dot of the text
that spells it. A text that spells a path with parts ends in one part with only slashes behind it
(`EndsIn`). Where that part is the name of the path, both find the same dot. Where it is a single
dot, which is no part of the path, that dot is taken away and the extension stays
(`PathArgument.withoutExtension_append_extension`).
-/

namespace ScopedShell

namespace Path

/-! ## Parts of texts put together -/

theorem partsOf_append_slash (t rest : Text) :
    partsOf (t ++ '/' :: rest) = partsOf t ++ partsOf rest := by
  rw [partsOf, Text.split_append_cons rfl, List.filter_append]
  rfl

theorem partsOf_slashes {slashes : Text} (h : ∀ c ∈ slashes, c = '/') : partsOf slashes = [] := by
  induction slashes with
  | nil => rfl
  | cons c slashes ih =>
    rw [List.forall_mem_cons] at h
    rw [h.1, partsOf_cons_slash, ih h.2]

theorem partsOf_append_slashes (t : Text) {slashes : Text} (h : ∀ c ∈ slashes, c = '/') :
    partsOf (t ++ slashes) = partsOf t := by
  cases slashes with
  | nil => rw [List.append_nil]
  | cons c slashes =>
    rw [List.forall_mem_cons] at h
    rw [h.1, partsOf_append_slash, partsOf_slashes h.2, List.append_nil]

/-- What follows the first character that is not a slash does not change the root. -/
theorem root_ofText_append {c : Char} (hc : c ≠ '/') (t rest rest' : Text) :
    Root.ofText (t ++ c :: rest) = Root.ofText (t ++ c :: rest') := by
  match t with
  | [] => simp [Root.ofText, hc]
  | [a] => by_cases ha : a = '/' <;> simp [Root.ofText, hc, ha]
  | [a, b] => by_cases ha : a = '/' <;> by_cases hb : b = '/' <;> simp [Root.ofText, hc, ha, hb]
  | a :: b :: d :: t =>
    by_cases ha : a = '/' <;> by_cases hb : b = '/' <;> by_cases hd : d = '/' <;>
      simp [Root.ofText, ha, hb, hd]

/-- The parts of a path with parts are those of its text, with nothing but empty ones before
them. -/
theorem split_text_of_parts {p : Path} (h : p.parts ≠ []) :
    ∃ empties : List Text, (∀ part ∈ empties, part = []) ∧
      Text.split (· == '/') p.text = empties ++ p.parts := by
  by_cases habsolute : p.isAbsolute = true
  · exact split_text habsolute
  · have hroot := root_of_isAbsolute_eq_false (Bool.not_eq_true _ ▸ habsolute)
    obtain ⟨part, parts, hparts⟩ := List.exists_cons_of_ne_nil h
    have hsplit : Text.split (· == '/') p.text = p.parts := by
      rw [text_of_parts h, hroot, hparts]
      exact split_joinWith (hparts ▸ p.isPart_of_mem)
    exact ⟨[], by simp, hsplit⟩

/-! ## The end of a text -/

/-- A text ends in a part: nothing but slashes follows it, and a slash or nothing precedes it. -/
structure EndsIn (t front part slashes : Text) : Prop where
  eq_append : t = front ++ (part ++ slashes)
  closed : front = [] ∨ ∃ above, front = above ++ ['/']
  part_ne_nil : part ≠ []
  slash_notMem : '/' ∉ part
  forall_mem_slashes : ∀ c ∈ slashes, c = '/'

/-- The last thing that the text spells, slashes apart, is a single dot. -/
def EndsInDot (t : Text) : Prop :=
  ∃ front slashes, EndsIn t front ['.'] slashes

theorem exists_endsIn {t : Text} (h : ∃ c ∈ t, c ≠ '/') :
    ∃ front part slashes, EndsIn t front part slashes := by
  induction t with
  | nil =>
    obtain ⟨c, hc, _⟩ := h
    cases hc
  | cons c t ih =>
    by_cases hrest : ∃ d ∈ t, d ≠ '/'
    · obtain ⟨front, part, slashes, ht⟩ := ih hrest
      rcases ht.closed with rfl | ⟨above, rfl⟩
      · by_cases hc : c = '/'
        · exact ⟨['/'], part, slashes, by rw [hc, ht.eq_append]; rfl, Or.inr ⟨[], rfl⟩,
            ht.part_ne_nil, ht.slash_notMem, ht.forall_mem_slashes⟩
        · exact ⟨[], c :: part, slashes, by rw [ht.eq_append]; rfl, Or.inl rfl,
            List.cons_ne_nil _ _, List.not_mem_cons_of_ne_of_not_mem (Ne.symm hc) ht.slash_notMem,
            ht.forall_mem_slashes⟩
      · exact ⟨c :: (above ++ ['/']), part, slashes, by rw [ht.eq_append]; rfl,
          Or.inr ⟨c :: above, rfl⟩, ht.part_ne_nil, ht.slash_notMem, ht.forall_mem_slashes⟩
    · -- only slashes follow, so the part is this character
      have hslashes : ∀ d ∈ t, d = '/' := fun d hd =>
        Classical.byContradiction fun hne => hrest ⟨d, hd, hne⟩
      have hc : '/' ≠ c := by
        rintro rfl
        obtain ⟨d, hd, hne⟩ := h
        exact hne ((List.mem_cons.1 hd).elim id (hslashes d))
      exact ⟨[], [c], t, rfl, Or.inl rfl, List.cons_ne_nil _ _, by simpa using hc, hslashes⟩

theorem EndsIn.partsOf_append {t front part slashes : Text} (h : EndsIn t front part slashes)
    (rest : Text) : partsOf (front ++ rest) = partsOf front ++ partsOf rest := by
  rcases h.closed with rfl | ⟨above, rfl⟩
  · rfl
  · rw [List.append_assoc, List.singleton_append, partsOf_append_slash, partsOf_append_slash]
    simp [partsOf_slashes]

theorem EndsIn.mem_split {t front part slashes : Text} (h : EndsIn t front part slashes) :
    part ∈ Text.split (· == '/') t := by
  have hpart : part ∈ Text.split (· == '/') (part ++ slashes) := by
    cases slashes with
    | nil =>
      rw [List.append_nil, split_part h.slash_notMem]
      exact List.mem_singleton_self part
    | cons c slashes =>
      rw [h.forall_mem_slashes c List.mem_cons_self, split_append_slash h.slash_notMem]
      exact List.mem_cons_self
  rw [h.eq_append]
  rcases h.closed with rfl | ⟨above, rfl⟩
  · exact hpart
  · rw [List.append_assoc, List.singleton_append, Text.split_append_cons rfl]
    exact List.mem_append_right _ hpart

theorem EndsIn.partsOf_eq {t front part slashes : Text} (h : EndsIn t front part slashes) :
    partsOf t = partsOf front ++ partsOf part := by
  rw [h.eq_append, h.partsOf_append, partsOf_append_slashes part h.forall_mem_slashes]

/-- A part that is not a single dot is the name of the path, and the slashes behind it do not
matter. -/
theorem EndsIn.ofText_front_part {t front part slashes : Text} (h : EndsIn t front part slashes)
    (hdot : part ≠ ['.']) : (ofText t).name = part ∧ ofText (front ++ part) = ofText t := by
  have hpart : IsPart part := ⟨h.part_ne_nil, hdot, h.slash_notMem⟩
  obtain ⟨c, others, rfl⟩ := List.exists_cons_of_ne_nil h.part_ne_nil
  have hc : c ≠ '/' := fun heq => h.slash_notMem (heq ▸ List.mem_cons_self)
  refine ⟨?_, Path.ext ?_ ?_⟩
  · change (partsOf t).getLast?.getD [] = _
    rw [h.partsOf_eq, show partsOf (c :: others) = [c :: others] from (ofText_part hpart).2,
      List.getLast?_concat]
    rfl
  · change Root.ofText _ = Root.ofText t
    rw [h.eq_append, List.cons_append]
    exact root_ofText_append hc front others _
  · exact (h.partsOf_append _).trans h.partsOf_eq.symm

/-- Where a single dot is the last thing, whatever is put behind the dot in its place is a new
part. -/
theorem EndsIn.ofText_front_dot {t front slashes : Text} (h : EndsIn t front ['.'] slashes)
    (rest : Text) : ofText (front ++ '.' :: rest) = (ofText t).child ('.' :: rest) := by
  have hrelative : (ofText ('.' :: rest)).root = .relative := by simp [ofText, Root.ofText]
  ext1
  · rw [child, root_join, if_pos hrelative]
    change Root.ofText _ = Root.ofText t
    rw [h.eq_append, List.singleton_append]
    exact root_ofText_append (by decide) front rest slashes
  · rw [child, parts_join, if_pos hrelative]
    change partsOf _ = partsOf t ++ partsOf ('.' :: rest)
    rw [h.partsOf_append, h.partsOf_eq, show partsOf ['.'] = [] from rfl, List.append_nil]

theorem not_endsInDot_text {p : Path} (h : p.parts ≠ []) : ¬ EndsInDot p.text := by
  rintro ⟨front, slashes, hends⟩
  obtain ⟨empties, hempties, hsplit⟩ := split_text_of_parts h
  have hmem := hends.mem_split
  rw [hsplit, List.mem_append] at hmem
  rcases hmem with hempty | hpart
  · cases hempties _ hempty
  · exact (p.isPart_of_mem _ hpart).2.1 rfl

theorem child_dot_eq_self_iff {p : Path} {rest : Text} (h : '/' ∉ rest) :
    p.child ('.' :: rest) = p ↔ rest = [] := by
  constructor
  · intro heq
    by_cases hrest : rest = []
    · exact hrest
    · have hpart : IsPart ('.' :: rest) :=
        ⟨List.cons_ne_nil _ _, by simpa using hrest, by simpa using h⟩
      have hparts := parts_child p hpart
      rw [heq] at hparts
      simp at hparts
  · rintro rfl
    ext1
    · rfl
    · exact List.append_nil p.parts

theorem name_mem_parts {p : Path} {c : Char} (h : c ∈ p.name) : p.name ∈ p.parts := by
  rw [name] at h ⊢
  cases hlast : p.parts.getLast? with
  | none =>
    rw [hlast] at h
    cases h
  | some part => exact List.mem_of_getLast? hlast

end Path

namespace PathArgument

open ScopedShell.Path (EndsInDot)

variable {a : PathArgument}

theorem exists_name_eq (h : '.' ∈ a.toPath.name) :
    ∃ stem, a.toPath.name = stem ++ '.' :: a.extension ∧ '.' ∉ a.extension := by
  obtain ⟨stem, suffix, hname, hsuffix, hcut⟩ := Text.exists_cutLast?_eq h
  refine ⟨stem, ?_⟩
  rw [extension, hcut]
  exact ⟨hname, hsuffix⟩

theorem slash_notMem_extension (h : '.' ∈ a.toPath.name) : '/' ∉ a.extension := by
  obtain ⟨stem, hname, _⟩ := exists_name_eq h
  have hpart := a.toPath.isPart_of_mem _ (Path.name_mem_parts h)
  intro hmem
  apply hpart.2.2
  rw [hname]
  exact List.mem_append_right _ (List.mem_cons_of_mem _ hmem)

theorem withoutExtension_of_last_dot (h : '.' ∈ a.toPath.name) {stem suffix : Text}
    (htext : a.text = stem ++ '.' :: suffix) (hsuffix : '.' ∉ suffix) :
    a.withoutExtension = stem := by
  rw [withoutExtension, if_pos h, htext, Text.cutLast?_append hsuffix]

theorem ofText_of_endsInDot (h : '.' ∈ a.toPath.name) (hdot : EndsInDot a.text) :
    Path.ofText (a.withoutExtension ++ '.' :: a.extension) =
      a.toPath.child ('.' :: a.extension) := by
  obtain ⟨front, slashes, hends⟩ := hdot
  have hslashes : '.' ∉ slashes := fun hmem => by cases hends.forall_mem_slashes _ hmem
  rw [withoutExtension_of_last_dot h hends.eq_append hslashes, hends.ofText_front_dot,
    a.ofText_text]

theorem ofText_of_not_endsInDot (h : '.' ∈ a.toPath.name) (hdot : ¬ EndsInDot a.text) :
    Path.ofText (a.withoutExtension ++ '.' :: a.extension) = a.toPath := by
  have hmem : a.toPath.name ∈ (Path.ofText a.text).parts := by
    rw [a.ofText_text]
    exact Path.name_mem_parts h
  obtain ⟨front, part, slashes, hends⟩ :=
    Path.exists_endsIn ⟨'.', Path.mem_of_mem_partsOf hmem h, by decide⟩
  obtain ⟨hname, hsame⟩ := hends.ofText_front_part fun heq => hdot ⟨front, slashes, heq ▸ hends⟩
  obtain ⟨stem, hstem, hextension⟩ := exists_name_eq h
  -- the last dot of the text is that of the name, with only slashes behind it
  have hpart : part = stem ++ '.' :: a.extension := by rw [← hname, a.ofText_text, hstem]
  have htext : a.text = (front ++ stem) ++ '.' :: (a.extension ++ slashes) := by
    rw [hends.eq_append, hpart]
    simp
  have hslashes : '.' ∉ a.extension ++ slashes := fun hdot => by
    rcases List.mem_append.1 hdot with hmem | hmem
    · exact hextension hmem
    · cases hends.forall_mem_slashes _ hmem
  rw [withoutExtension_of_last_dot h htext hslashes, List.append_assoc, ← hpart, hsame,
    a.ofText_text]

/-- If the name has a dot, the text without the extension, a dot and the extension denote the path,
unless the text ends in a single dot and the extension is not empty; then they denote another path,
one part further down. The text of a path that is not spelled out does not end in a dot. -/
theorem withoutExtension_append_extension (a : PathArgument) :
    ('.' ∉ a.toPath.name → a.extension = [] ∧ a.withoutExtension = a.text) ∧
    ('.' ∈ a.toPath.name →
      '.' ∉ a.extension ∧
      (Path.ofText (a.withoutExtension ++ '.' :: a.extension) = a.toPath ↔
        (EndsInDot a.text → a.extension = [])) ∧
      (EndsInDot a.text → Path.ofText (a.withoutExtension ++ '.' :: a.extension) =
        a.toPath.child ('.' :: a.extension)) ∧
      ∀ p, a = .path p → ¬ EndsInDot a.text) := by
  refine ⟨fun hname => ⟨?_, ?_⟩, fun hname => ⟨?_, ⟨fun hsame hdot => ?_, fun hdot => ?_⟩,
    ofText_of_endsInDot hname, ?_⟩⟩
  · rw [extension, Text.cutLast?, if_neg hname]
  · rw [withoutExtension, if_neg hname]
  · exact (exists_name_eq hname).elim fun _ h => h.2
  · rw [ofText_of_endsInDot hname hdot] at hsame
    exact (Path.child_dot_eq_self_iff (slash_notMem_extension hname)).1 hsame
  · by_cases hends : EndsInDot a.text
    · rw [ofText_of_endsInDot hname hends]
      exact (Path.child_dot_eq_self_iff (slash_notMem_extension hname)).2 (hdot hends)
    · exact ofText_of_not_endsInDot hname hends
  · rintro p rfl
    exact Path.not_endsInDot_text (List.ne_nil_of_mem (Path.name_mem_parts hname))

theorem withoutExtension_append_extension_of_slashes :
    '.' ∈ (spelled "x/../a.tar.gz//").toPath.name ∧
      (spelled "x/../a.tar.gz//").withoutExtension = ("x/../a.tar" : Text) ∧
      (spelled "x/../a.tar.gz//").extension = ("gz" : Text) ∧
      Path.ofText "x/../a.tar.gz" = (spelled "x/../a.tar.gz//").toPath := by
  have hname : '.' ∈ (spelled "x/../a.tar.gz//").toPath.name := by decide
  obtain ⟨_, hlaw, _⟩ := (withoutExtension_append_extension (spelled "x/../a.tar.gz//")).2 hname
  refine ⟨hname, rfl, rfl, hlaw.2 fun hdot => ?_⟩
  obtain ⟨_, _, hends⟩ := hdot
  exact absurd hends.mem_split (by decide)

/-- A dot behind the name is taken for the one in front of the extension. -/
theorem withoutExtension_of_dot_behind :
    '.' ∈ (spelled "a.b/.").toPath.name ∧
      Path.ofText ((spelled "a.b/.").withoutExtension ++ '.' :: (spelled "a.b/.").extension) ≠
        (spelled "a.b/.").toPath := by
  decide

end PathArgument

end ScopedShell
