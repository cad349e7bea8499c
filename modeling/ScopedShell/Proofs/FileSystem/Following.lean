import ScopedShell.FileSystem.Access
import ScopedShell.Proofs.Path.Descent

/-!
# Following a path

`Follows fs n l parts l'` says that the parts, followed one by one from `l` as the system does it,
lead to `l'` and pass `n` links on the way. It has no limit on the links: a walk that may follow
`links` of them succeeds exactly where at most that many are passed (`walk_eq_ok_iff`). Parts that
stand one behind the other are followed one behind the other (`follows_append_iff`), and each way
leads to one place (`Follows.unique`).
-/

namespace ScopedShell

namespace FileSystem

def Searchable (fs : FileSystem) (l : Location) : Prop :=
  ∃ denied, fs.node? l = some (.directory denied) ∧ denied.searching = false

def FitsName (name : Text) : Prop := Text.utf8Size name ≤ 255

/-- Following parts from a location leads to another and passes a number of links. -/
inductive Follows (fs : FileSystem) : Nat → Location → List Text → Location → Prop
  | done {l : Location} : Follows fs 0 l [] l
  | slash {n : Nat} {l l' : Location} {rest : List Text} (hl : fs.isDirectoryAt l = true)
      (h : Follows fs n l rest l') : Follows fs n l ([] :: rest) l'
  | stay {n : Nat} {l l' : Location} {rest : List Text} (hl : fs.Searchable l)
      (h : Follows fs n l rest l') : Follows fs n l (['.'] :: rest) l'
  | up {n : Nat} {l l' : Location} {rest : List Text} (hl : fs.Searchable l)
      (h : Follows fs n l.dropLast rest l') : Follows fs n l (parentPart :: rest) l'
  | enter {n : Nat} {l l' : Location} {name : Text} {node : Node} {rest : List Text}
      (hl : fs.Searchable l) (hfits : FitsName name) (hnode : fs.node? (l ++ [name]) = some node)
      (hlink : node.isLink = false) (h : Follows fs n (l ++ [name]) rest l') :
      Follows fs n l (name :: rest) l'
  | jump {n : Nat} {l l' : Location} {name target : Text} {rest : List Text}
      (hl : fs.Searchable l) (hfits : FitsName name)
      (hnode : fs.node? (l ++ [name]) = some (.link target))
      (h : Follows fs n (targetStart l target) (Text.split (· == '/') target ++ rest) l') :
      Follows fs (n + 1) l (name :: rest) l'

variable {fs : FileSystem}

theorem isName_of_node? {l : Location} {name : Text} {node : Node}
    (h : fs.node? (l ++ [name]) = some node) : IsName name :=
  fs.isName_of_mem _ (node?_eq_some_iff.1 h) name (by simp)

theorem Searchable.isDirectoryAt {l : Location} (h : fs.Searchable l) :
    fs.isDirectoryAt l = true := by
  obtain ⟨denied, hnode, _⟩ := h
  exact isDirectoryAt_iff.2 ⟨_, node?_eq_some_iff.1 hnode, rfl⟩

theorem isDirectoryAt_iff_exists_denied {l : Location} :
    fs.isDirectoryAt l = true ↔ ∃ denied, fs.node? l = some (.directory denied) := by
  rw [isDirectoryAt_iff]
  constructor
  · rintro ⟨node, hmem, hdirectory⟩
    obtain ⟨denied, rfl⟩ := Node.isDirectory_iff.1 hdirectory
    exact ⟨denied, node?_eq_some_iff.2 hmem⟩
  · rintro ⟨denied, hnode⟩
    exact ⟨_, node?_eq_some_iff.1 hnode, rfl⟩

theorem isDirectoryAt_root (fs : FileSystem) : fs.isDirectoryAt [] = true :=
  isDirectoryAt_iff.2 fs.root_mem

/-! ## The walk and its links -/

def jumpWithin (fs : FileSystem) (followLast : Bool) :
    Nat → Location → List Text → Except Refusal Location
  | 0, _, _ => .error .tooManyLinks
  | links + 1, l, parts => fs.walk followLast links l parts

theorem walk_eq_walkWith (followLast : Bool) (links : Nat) :
    fs.walk followLast links = fs.walkWith followLast (fs.jumpWithin followLast links) := by
  cases links <;> rfl

theorem walkWith_slash {followLast : Bool} {jump : Location → List Text → Except Refusal Location}
    {l : Location} {rest : List Text} (hl : fs.isDirectoryAt l = true) :
    fs.walkWith followLast jump l ([] :: rest) = fs.walkWith followLast jump l rest := by
  obtain ⟨denied, hnode⟩ := isDirectoryAt_iff_exists_denied.1 hl
  rw [walkWith, hnode]
  simp

theorem walkWith_name {followLast : Bool} {jump : Location → List Text → Except Refusal Location}
    {l : Location} {name : Text} {rest : List Text} (hl : fs.Searchable l) (hname : IsName name)
    (hfits : FitsName name) :
    fs.walkWith followLast jump l (name :: rest) =
      match fs.node? (l ++ [name]) with
      | none => .error .missing
      | some (.link target) =>
        if rest.isEmpty && !followLast then .ok (l ++ [name])
        else jump (targetStart l target) (Text.split (· == '/') target ++ rest)
      | some _ => fs.walkWith followLast jump (l ++ [name]) rest := by
  obtain ⟨denied, hnode, hsearching⟩ := hl
  have hsize : ¬ 255 < Text.utf8Size name := Nat.not_lt.2 hfits
  rw [walkWith, hnode]
  cases fs.node? (l ++ [name]) with
  | none => simp [hname.1.1, hname.1.2.1, hname.2, hsearching, hsize]
  | some node => cases node <;> simp [hname.1.1, hname.1.2.1, hname.2, hsearching, hsize]

theorem walkWith_stay {followLast : Bool} {jump : Location → List Text → Except Refusal Location}
    {l : Location} {rest : List Text} (hl : fs.Searchable l) :
    fs.walkWith followLast jump l (['.'] :: rest) = fs.walkWith followLast jump l rest := by
  obtain ⟨denied, hnode, hsearching⟩ := hl
  have hsize : ¬ 255 < Text.utf8Size ['.'] := by decide
  rw [walkWith, hnode]
  simp [hsearching, hsize]

theorem walkWith_up {followLast : Bool} {jump : Location → List Text → Except Refusal Location}
    {l : Location} {rest : List Text} (hl : fs.Searchable l) :
    fs.walkWith followLast jump l (parentPart :: rest) =
      fs.walkWith followLast jump l.dropLast rest := by
  obtain ⟨denied, hnode, hsearching⟩ := hl
  have hsize : ¬ 255 < Text.utf8Size parentPart := by decide
  have hparent : parentPart ≠ [] ∧ parentPart ≠ ['.'] := by decide
  rw [walkWith, hnode]
  simp [hsearching, hsize, hparent]

theorem follows_of_walkWith {jump : Location → List Text → Except Refusal Location} {links : Nat}
    (hjump : ∀ l parts l', jump l parts = .ok l' → ∃ n, n < links ∧ fs.Follows n l parts l')
    {parts : List Text} {l l' : Location} (h : fs.walkWith true jump l parts = .ok l') :
    ∃ n, n ≤ links ∧ fs.Follows n l parts l' := by
  induction parts generalizing l with
  | nil =>
    obtain rfl : l = l' := Except.ok.inj h
    exact ⟨0, Nat.zero_le _, .done⟩
  | cons part rest ih =>
    rw [walkWith] at h
    split at h
    · cases h
    · next denied hnode =>
      have hdirectory : fs.isDirectoryAt l = true := isDirectoryAt_iff_exists_denied.2 ⟨_, hnode⟩
      split at h
      · next hpart =>
        obtain ⟨n, hn, hrest⟩ := ih h
        exact ⟨n, hn, hpart ▸ .slash hdirectory hrest⟩
      · split at h
        · cases h
        · next hsearching =>
          have hl : fs.Searchable l := ⟨denied, hnode, by simpa using hsearching⟩
          split at h
          · cases h
          · next hsize =>
            have hfits : FitsName part := Nat.not_lt.1 hsize
            split at h
            · next hpart =>
              obtain ⟨n, hn, hrest⟩ := ih h
              exact ⟨n, hn, hpart ▸ .stay hl hrest⟩
            · split at h
              · next hpart =>
                obtain ⟨n, hn, hrest⟩ := ih h
                exact ⟨n, hn, hpart ▸ .up hl hrest⟩
              · split at h
                · cases h
                · next target htarget =>
                  rw [Bool.not_true, Bool.and_false, if_neg (by simp)] at h
                  obtain ⟨n, hn, hrest⟩ := hjump _ _ _ h
                  exact ⟨n + 1, hn, .jump hl hfits htarget hrest⟩
                · next node hnotLink hentry =>
                  obtain ⟨n, hn, hrest⟩ := ih h
                  have hlink : node.isLink = false := by
                    cases node with
                    | link target => exact (hnotLink target rfl).elim
                    | directory _ => rfl
                    | file _ _ => rfl
                  exact ⟨n, hn, .enter hl hfits hentry hlink hrest⟩
    · cases h

/-- A walk succeeds exactly where no more links are passed than it may follow. -/
theorem walk_eq_ok_iff {links : Nat} {l l' : Location} {parts : List Text} :
    fs.walk true links l parts = .ok l' ↔ ∃ n, n ≤ links ∧ fs.Follows n l parts l' := by
  constructor
  · intro h
    induction links generalizing l parts l' with
    | zero => exact follows_of_walkWith (fun _ _ _ h => by cases h) h
    | succ links ih =>
      refine follows_of_walkWith (fun l parts l' h => ?_) h
      obtain ⟨n, hn, hfollows⟩ := ih h
      exact ⟨n, Nat.lt_succ_of_le hn, hfollows⟩
  · rintro ⟨n, hn, h⟩
    induction h generalizing links with
    | done => cases links <;> rfl
    | slash hl h ih => rw [walk_eq_walkWith, walkWith_slash hl, ← walk_eq_walkWith, ih hn]
    | stay hl h ih => rw [walk_eq_walkWith, walkWith_stay hl, ← walk_eq_walkWith, ih hn]
    | up hl h ih => rw [walk_eq_walkWith, walkWith_up hl, ← walk_eq_walkWith, ih hn]
    | @enter n l l' name node rest hl hfits hnode hlink h ih =>
      rw [walk_eq_walkWith, walkWith_name hl (isName_of_node? hnode) hfits, hnode]
      cases node with
      | link target => cases hlink
      | directory denied => exact @walk_eq_walkWith fs true links ▸ ih hn
      | file content denied => exact @walk_eq_walkWith fs true links ▸ ih hn
    | jump hl hfits hnode h ih =>
      cases links with
      | zero => exact absurd hn (Nat.not_succ_le_zero _)
      | succ links =>
        rw [walk_eq_walkWith, walkWith_name hl (isName_of_node? hnode) hfits, hnode]
        simpa [jumpWithin] using ih (Nat.le_of_succ_le_succ hn)

/-! ## Ways part by part -/

theorem follows_nil_iff {n : Nat} {l l' : Location} : fs.Follows n l [] l' ↔ n = 0 ∧ l = l' := by
  constructor
  · intro h
    cases h
    exact ⟨rfl, rfl⟩
  · rintro ⟨rfl, rfl⟩
    exact .done

theorem not_isName_nil : ¬ IsName [] := by decide

theorem not_isName_dot : ¬ IsName ['.'] := by decide

theorem not_isName_parentPart : ¬ IsName parentPart := by decide

theorem follows_slash_iff {n : Nat} {l l' : Location} {rest : List Text} :
    fs.Follows n l ([] :: rest) l' ↔ fs.isDirectoryAt l = true ∧ fs.Follows n l rest l' := by
  constructor
  · intro h
    cases h with
    | slash hl h => exact ⟨hl, h⟩
    | enter _ _ hnode _ _ => exact (not_isName_nil (isName_of_node? hnode)).elim
    | jump _ _ hnode _ => exact (not_isName_nil (isName_of_node? hnode)).elim
  · rintro ⟨hl, h⟩
    exact .slash hl h

theorem follows_stay_iff {n : Nat} {l l' : Location} {rest : List Text} :
    fs.Follows n l (['.'] :: rest) l' ↔ fs.Searchable l ∧ fs.Follows n l rest l' := by
  constructor
  · intro h
    cases h with
    | stay hl h => exact ⟨hl, h⟩
    | enter _ _ hnode _ _ => exact (not_isName_dot (isName_of_node? hnode)).elim
    | jump _ _ hnode _ => exact (not_isName_dot (isName_of_node? hnode)).elim
  · rintro ⟨hl, h⟩
    exact .stay hl h

theorem follows_up_iff {n : Nat} {l l' : Location} {rest : List Text} :
    fs.Follows n l (parentPart :: rest) l' ↔
      fs.Searchable l ∧ fs.Follows n l.dropLast rest l' := by
  constructor
  · intro h
    cases h with
    | up hl h => exact ⟨hl, h⟩
    | enter _ _ hnode _ _ => exact (not_isName_parentPart (isName_of_node? hnode)).elim
    | jump _ _ hnode _ => exact (not_isName_parentPart (isName_of_node? hnode)).elim
  · rintro ⟨hl, h⟩
    exact .up hl h

theorem follows_name_iff {n : Nat} {l l' : Location} {name : Text} {rest : List Text}
    (hname : IsName name) :
    fs.Follows n l (name :: rest) l' ↔ fs.Searchable l ∧ FitsName name ∧
      ((∃ node, fs.node? (l ++ [name]) = some node ∧ node.isLink = false ∧
          fs.Follows n (l ++ [name]) rest l') ∨
        ∃ target m, n = m + 1 ∧ fs.node? (l ++ [name]) = some (.link target) ∧
          fs.Follows m (targetStart l target) (Text.split (· == '/') target ++ rest) l') := by
  constructor
  · intro h
    cases h with
    | slash _ _ => exact (not_isName_nil hname).elim
    | stay _ _ => exact (not_isName_dot hname).elim
    | up _ _ => exact (not_isName_parentPart hname).elim
    | enter hl hfits hnode hlink h => exact ⟨hl, hfits, Or.inl ⟨_, hnode, hlink, h⟩⟩
    | jump hl hfits hnode h => exact ⟨hl, hfits, Or.inr ⟨_, _, rfl, hnode, h⟩⟩
  · rintro ⟨hl, hfits, ⟨node, hnode, hlink, h⟩ | ⟨target, m, rfl, hnode, h⟩⟩
    · exact .enter hl hfits hnode hlink h
    · exact .jump hl hfits hnode h

theorem Follows.exists_node? {n : Nat} {l l' : Location} {name : Text} {rest : List Text}
    (h : fs.Follows n l (name :: rest) l') (hname : IsName name) :
    fs.Searchable l ∧ FitsName name ∧ ∃ node, fs.node? (l ++ [name]) = some node := by
  obtain ⟨hl, hfits, ⟨node, hnode, _, _⟩ | ⟨_, _, _, hnode, _⟩⟩ := (follows_name_iff hname).1 h
  · exact ⟨hl, hfits, node, hnode⟩
  · exact ⟨hl, hfits, _, hnode⟩

/-- Each way leads to one place and passes the same links. -/
theorem Follows.unique {n m : Nat} {l l' l'' : Location} {parts : List Text}
    (h : fs.Follows n l parts l') (h' : fs.Follows m l parts l'') : n = m ∧ l' = l'' := by
  induction h generalizing m l'' with
  | done =>
    obtain ⟨rfl, rfl⟩ := follows_nil_iff.1 h'
    exact ⟨rfl, rfl⟩
  | slash hl h ih => exact ih (follows_slash_iff.1 h').2
  | stay hl h ih => exact ih (follows_stay_iff.1 h').2
  | up hl h ih => exact ih (follows_up_iff.1 h').2
  | enter hl hfits hnode hlink h ih =>
    obtain ⟨_, _, ⟨_, _, _, hrest⟩ | ⟨_, _, _, hnode', _⟩⟩ :=
      (follows_name_iff (isName_of_node? hnode)).1 h'
    · exact ih hrest
    · rw [hnode] at hnode'
      cases hnode'
      cases hlink
  | jump hl hfits hnode h ih =>
    obtain ⟨_, _, ⟨_, hnode', hlink, _⟩ | ⟨_, k, rfl, hnode', hrest⟩⟩ :=
      (follows_name_iff (isName_of_node? hnode)).1 h'
    · rw [hnode] at hnode'
      cases hnode'
      cases hlink
    · rw [hnode] at hnode'
      cases hnode'
      obtain ⟨rfl, rfl⟩ := ih hrest
      exact ⟨rfl, rfl⟩

theorem Follows.append {m k : Nat} {l mid l' : Location} {front rest : List Text}
    (h : fs.Follows m l front mid) (h' : fs.Follows k mid rest l') :
    fs.Follows (m + k) l (front ++ rest) l' := by
  induction h with
  | done => simpa using h'
  | slash hl h ih => exact .slash hl (ih h')
  | stay hl h ih => exact .stay hl (ih h')
  | up hl h ih => exact .up hl (ih h')
  | enter hl hfits hnode hlink h ih => exact .enter hl hfits hnode hlink (ih h')
  | @jump n _ _ _ _ _ hl hfits hnode h ih =>
    rw [Nat.add_right_comm]
    exact .jump hl hfits hnode (by simpa using ih h')

theorem follows_append_iff {n : Nat} {l l' : Location} {front rest : List Text} :
    fs.Follows n l (front ++ rest) l' ↔
      ∃ m k mid, n = m + k ∧ fs.Follows m l front mid ∧ fs.Follows k mid rest l' := by
  constructor
  · intro h
    generalize hparts : front ++ rest = parts at h
    induction h generalizing front with
    | done =>
      obtain ⟨rfl, rfl⟩ := List.append_eq_nil_iff.1 hparts
      exact ⟨0, 0, _, rfl, .done, .done⟩
    | @slash n l l' tail hl h ih =>
      cases front with
      | nil =>
        obtain rfl : rest = [] :: tail := hparts
        exact ⟨0, n, l, (Nat.zero_add n).symm, .done, .slash hl h⟩
      | cons part front =>
        obtain ⟨rfl, htail⟩ := List.cons.inj hparts
        obtain ⟨m, k, mid, hn, hfront, hrest⟩ := ih htail
        exact ⟨m, k, mid, hn, .slash hl hfront, hrest⟩
    | @stay n l l' tail hl h ih =>
      cases front with
      | nil =>
        obtain rfl : rest = ['.'] :: tail := hparts
        exact ⟨0, n, l, (Nat.zero_add n).symm, .done, .stay hl h⟩
      | cons part front =>
        obtain ⟨rfl, htail⟩ := List.cons.inj hparts
        obtain ⟨m, k, mid, hn, hfront, hrest⟩ := ih htail
        exact ⟨m, k, mid, hn, .stay hl hfront, hrest⟩
    | @up n l l' tail hl h ih =>
      cases front with
      | nil =>
        obtain rfl : rest = parentPart :: tail := hparts
        exact ⟨0, n, l, (Nat.zero_add n).symm, .done, .up hl h⟩
      | cons part front =>
        obtain ⟨rfl, htail⟩ := List.cons.inj hparts
        obtain ⟨m, k, mid, hn, hfront, hrest⟩ := ih htail
        exact ⟨m, k, mid, hn, .up hl hfront, hrest⟩
    | @enter n l l' name node tail hl hfits hnode hlink h ih =>
      cases front with
      | nil =>
        obtain rfl : rest = name :: tail := hparts
        exact ⟨0, n, l, (Nat.zero_add n).symm, .done, .enter hl hfits hnode hlink h⟩
      | cons part front =>
        obtain ⟨rfl, htail⟩ := List.cons.inj hparts
        obtain ⟨m, k, mid, hn, hfront, hrest⟩ := ih htail
        exact ⟨m, k, mid, hn, .enter hl hfits hnode hlink hfront, hrest⟩
    | @jump n l l' name target tail hl hfits hnode h ih =>
      cases front with
      | nil =>
        obtain rfl : rest = name :: tail := hparts
        exact ⟨0, n + 1, l, (Nat.zero_add _).symm, .done, .jump hl hfits hnode h⟩
      | cons part front =>
        obtain ⟨rfl, rfl⟩ := List.cons.inj hparts
        obtain ⟨m, k, mid, hn, hfront, hrest⟩ := @ih (Text.split (· == '/') target ++ front)
          (List.append_assoc _ _ _)
        exact ⟨m + 1, k, mid, by omega, .jump hl hfits hnode hfront, hrest⟩
  · rintro ⟨m, k, mid, rfl, h, h'⟩
    exact h.append h'

/-- A link leads where its target leads, and the rest is followed from there. -/
theorem follows_link_iff {n : Nat} {l l' : Location} {name target : Text} {rest : List Text}
    (hnode : fs.node? (l ++ [name]) = some (.link target)) :
    fs.Follows n l (name :: rest) l' ↔ fs.Searchable l ∧ FitsName name ∧
      ∃ m k mid, n = m + k + 1 ∧
        fs.Follows m (targetStart l target) (Text.split (· == '/') target) mid ∧
        fs.Follows k mid rest l' := by
  rw [follows_name_iff (isName_of_node? hnode)]
  apply and_congr_right
  intro _
  apply and_congr_right
  intro _
  constructor
  · rintro (⟨node, hnode', hlink, _⟩ | ⟨target', i, rfl, hnode', hrest⟩)
    · rw [hnode] at hnode'
      cases hnode'
      cases hlink
    · rw [hnode] at hnode'
      cases hnode'
      obtain ⟨m, k, mid, rfl, htarget, hrest⟩ := follows_append_iff.1 hrest
      exact ⟨m, k, mid, rfl, htarget, hrest⟩
  · rintro ⟨m, k, mid, rfl, htarget, hrest⟩
    exact Or.inr ⟨target, m + k, rfl, hnode, htarget.append hrest⟩

/-! ## The last parts of a walk -/

/-- A walk follows every link on the way to parts that are still to come. -/
theorem walk_append {followLast : Bool} {links n : Nat} {l mid : Location} {front parts : List Text}
    (hparts : parts ≠ []) (h : fs.Follows n l front mid) (hn : n ≤ links) :
    fs.walk followLast links l (front ++ parts) = fs.walk followLast (links - n) mid parts := by
  induction h generalizing links with
  | done => rfl
  | slash hl h ih =>
    rw [List.cons_append, walk_eq_walkWith, walkWith_slash hl, ← walk_eq_walkWith, ih hn]
  | stay hl h ih =>
    rw [List.cons_append, walk_eq_walkWith, walkWith_stay hl, ← walk_eq_walkWith, ih hn]
  | up hl h ih =>
    rw [List.cons_append, walk_eq_walkWith, walkWith_up hl, ← walk_eq_walkWith, ih hn]
  | @enter n l l' name node rest hl hfits hnode hlink h ih =>
    rw [List.cons_append, walk_eq_walkWith, walkWith_name hl (isName_of_node? hnode) hfits, hnode]
    cases node with
    | link target => cases hlink
    | directory denied => exact @walk_eq_walkWith fs followLast links ▸ ih hn
    | file content denied => exact @walk_eq_walkWith fs followLast links ▸ ih hn
  | @jump n l l' name target rest hl hfits hnode h ih =>
    cases links with
    | zero => exact absurd hn (Nat.not_succ_le_zero _)
    | succ links =>
      rw [List.cons_append, walk_eq_walkWith, walkWith_name hl (isName_of_node? hnode) hfits, hnode]
      have hrest : (rest ++ parts).isEmpty = false := by simp [hparts]
      simp only [hrest, Bool.false_and, Bool.false_eq_true, if_false, jumpWithin]
      rw [← List.append_assoc, ih (Nat.le_of_succ_le_succ hn), Nat.succ_sub_succ]

theorem walk_name_eq_ok_iff {links : Nat} {l l' : Location} {name : Text} (hname : IsName name) :
    fs.walk false links l [name] = .ok l' ↔
      fs.Searchable l ∧ FitsName name ∧ (fs.node? (l ++ [name])).isSome = true ∧
        l' = l ++ [name] := by
  constructor
  · intro h
    have hl : fs.Searchable l ∧ FitsName name := by
      rw [walk_eq_walkWith, walkWith] at h
      split at h
      · cases h
      · next denied hnode =>
        rw [if_neg hname.1.1] at h
        split at h
        · cases h
        · next hsearching =>
          split at h
          · cases h
          · next hsize => exact ⟨⟨denied, hnode, by simpa using hsearching⟩, Nat.not_lt.1 hsize⟩
      · cases h
    rw [walk_eq_walkWith, walkWith_name hl.1 hname hl.2] at h
    refine ⟨hl.1, hl.2, ?_⟩
    cases hnode : fs.node? (l ++ [name]) with
    | none =>
      rw [hnode] at h
      cases h
    | some node =>
      rw [hnode] at h
      refine ⟨rfl, ?_⟩
      cases node with
      | link target => exact (Except.ok.inj h).symm
      | directory denied => exact (Except.ok.inj h).symm
      | file content denied => exact (Except.ok.inj h).symm
  · rintro ⟨hl, hfits, hnode, rfl⟩
    obtain ⟨node, hnode⟩ := Option.isSome_iff_exists.1 hnode
    rw [walk_eq_walkWith, walkWith_name hl hname hfits, hnode]
    cases node <;> rfl

end FileSystem

end ScopedShell
