import ScopedShell.Proofs.Glob.Expression
import ScopedShell.Proofs.Outcome

/-!
# Compiled segments match their language

The compiler writes an expression while it scans a segment, and the expression is read back with a
stack of open groups. Both go through the segment from left to right, so they are followed together
along a wording: scanning the wording and reading what was written for it extends the expression by
the one of the wording (`Wording.exists_scans`). Whatever can be scanned has a wording
(`worded_of_scan`), so a compiled segment is the test for the names that the segment describes
(`fullMatch_iff_describes`).
-/

namespace ScopedShell

namespace Glob

/-! ## Characters that stand for themselves -/

theorem needsBackslash_of_isSpecial {c : Char} (h : Regex.isSpecial c = true) :
    needsBackslash c = true := by
  have hsubset : (("()[]\x7b\x7d?*+|^$\\." : Text).all needsBackslash) = true := by decide
  exact List.all_eq_true.1 hsubset c (of_decide_eq_true h)

theorem not_isAlphanum_of_needsBackslash {c : Char} (h : needsBackslash c = true) :
    c.isAlphanum = false := by
  have hnone : (("()[]\x7b\x7d?*+-|^$\\.&~# \t\n\r\x0b\x0c" : Text).all
      fun d => !d.isAlphanum) = true := by decide
  simpa using List.all_eq_true.1 hnone c (of_decide_eq_true h)

theorem readIn_escape {groups : List Regex.Group} {choices : Option Regex} {sequence : Regex}
    (c : Char) (rest : Text) :
    Regex.readIn groups choices sequence (escape c ++ rest) =
      Regex.readIn groups choices (.seq sequence (.char c)) rest := by
  cases h : needsBackslash c with
  | true =>
    rw [escape, h, if_pos rfl]
    exact Regex.readIn_backslash (not_isAlphanum_of_needsBackslash h) rest
  | false =>
    have hc : Regex.isSpecial c = false := Bool.eq_false_iff.2 fun hspecial =>
      absurd (needsBackslash_of_isSpecial hspecial) (by simp [h])
    rw [escape, h, if_neg (by simp)]
    exact Regex.readIn_of_not_isSpecial hc rest

/-! ## Scanning a wording and reading it back -/

theorem escape_eq_cons (c : Char) : ∃ d rest, escape c = d :: rest ∧ d ≠ '*' ∧ d ≠ '?' := by
  rw [escape]
  split
  · exact ⟨'\\', [c], rfl, by decide, by decide⟩
  · next h =>
    refine ⟨c, [], rfl, ?_, ?_⟩
    · rintro rfl
      exact h rfl
    · rintro rfl
      exact h rfl

/-- Scanning a text at a depth of open braces writes another, whatever the position, and the
written text does not start with a sign that would count for what is written in front of it. -/
def Scans (depth : Nat) (t written : Text) : Prop :=
  (∀ position, scan depth position t = .ok written) ∧
    written.head? ≠ some '*' ∧ written.head? ≠ some '?'

def Sign.written (dotFollows : Bool) : Sign → Text
  | plain c => if c ∈ ("@%" : Text) then ['\\', c] else escape c
  | escaped c => escape c
  | run => "[^/]*"
  | one => "[^/]"
  | slash => '/' :: if dotFollows then [] else noLeadingDot

theorem scans_nil : Scans 0 [] [] := ⟨fun _ => rfl, by decide, by decide⟩

theorem Scans.openBrace {depth : Nat} {t written : Text} (h : Scans (depth + 1) t written) :
    Scans depth ('{' :: t) ('(' :: written) := by
  refine ⟨fun position => ?_, by simp, by simp⟩
  rw [scan, h.1 (position + 1)]
  rfl

theorem Scans.closeBrace {depth : Nat} {t written : Text} (h : Scans depth t written) :
    Scans (depth + 1) ('}' :: t) (')' :: written) := by
  refine ⟨fun position => ?_, by simp, by simp⟩
  rw [scan, h.1 (position + 1)]
  rfl

theorem Scans.comma {depth : Nat} {t written : Text} (h : Scans (depth + 1) t written) :
    Scans (depth + 1) (',' :: t) ('|' :: written) := by
  refine ⟨fun position => ?_, by simp, by simp⟩
  rw [scan, h.1 (position + 1)]
  · rfl
  all_goals simp

theorem Scans.sign {s : Sign} {depth : Nat} {t written : Text} (hfits : s.Fits (0 < depth))
    (h : Scans depth t written) :
    Scans depth (s.spelled ++ t) (s.written (isDotSegment t) ++ written) := by
  constructor
  · intro position
    cases s with
    | plain c =>
      obtain ⟨hc, hcomma⟩ := hfits
      have hnot : ¬ (c = ',' ∧ 0 < depth) := fun hc => hcomma (by simp [hc.2]) hc.1
      rw [Sign.spelled, List.singleton_append, scan, h.1 (position + 1)]
      · simp only [bind, Except.bind, pure, Except.pure, if_neg hnot, Sign.written]
        split <;> rfl
      all_goals
        intros
        subst_vars
        exact hc (by decide)
    | escaped c =>
      rw [Sign.spelled, List.cons_append, List.singleton_append, scan, h.1 (position + 2)]
      rfl
    | run =>
      rw [Sign.spelled, List.singleton_append, scan, h.1 (position + 1)]
      rfl
    | one =>
      rw [Sign.spelled, List.singleton_append, scan, h.1 (position + 1)]
      rfl
    | slash =>
      rw [Sign.spelled, List.singleton_append, scan, h.1 (position + 1)]
      simp only [Sign.written, isDotSegment, decide_eq_true_eq]
      rfl
  · cases s with
    | plain c =>
      obtain ⟨d, rest, hd, hne⟩ := escape_eq_cons c
      rw [Sign.written, hd]
      split
      · simp
      · simpa using hne
    | escaped c =>
      obtain ⟨d, rest, hd, hne⟩ := escape_eq_cons c
      rw [Sign.written, hd]
      simpa using hne
    | _ => simp [Sign.written]

theorem readIn_sign {groups : List Regex.Group} {choices : Option Regex} {sequence : Regex}
    (s : Sign) (dotFollows : Bool) {rest : Text} (hrest : rest.head? ≠ some '*') :
    Regex.readIn groups choices sequence (s.written dotFollows ++ rest) =
      Regex.readIn groups choices (s.extend dotFollows sequence) rest := by
  cases s with
  | plain c =>
    rw [Sign.written, Sign.extend]
    split
    · next hc =>
      have hnone : (("@%" : Text).all fun d => !d.isAlphanum) = true := by decide
      have hc : c.isAlphanum = false := by simpa using List.all_eq_true.1 hnone c hc
      exact Regex.readIn_backslash hc rest
    · exact readIn_escape c rest
  | escaped c => exact readIn_escape c rest
  | run => rfl
  | one =>
    cases rest with
    | nil => rfl
    | cons c rest =>
      have hc : c ≠ '*' := by simpa using hrest
      simp [Sign.written, Sign.extend, Regex.readIn, hc]
  | slash =>
    have hslash : ∀ t, Regex.readIn groups choices sequence ('/' :: t) =
        Regex.readIn groups choices (.seq sequence (.char '/')) t :=
      Regex.readIn_of_not_isSpecial (by decide)
    cases dotFollows with
    | true => exact hslash rest
    | false =>
      exact (hslash _).trans rfl

/-- What may follow a wording: the next comma or brace inside braces, and nothing outside. -/
def Ends (inBraces : Bool) (t : Text) : Prop :=
  if inBraces then t.head? = some ',' ∨ t.head? = some '}' else t = []

theorem isDotSegment_append {inBraces : Bool} {t : Text} (h : Ends inBraces t) (s : Text) :
    isDotSegment (s ++ t) = isDotSegment s := by
  cases s with
  | cons c s => rfl
  | nil =>
    cases inBraces with
    | false =>
      obtain rfl : t = [] := h
      rfl
    | true =>
      rcases h with h | h
      · simp [isDotSegment, h]
      · simp [isDotSegment, h]

mutual

/-- A wording can be scanned in front of what may follow it, and reading what is written for it
extends the expression read so far. -/
theorem Wording.exists_scans : ∀ (w : Wording) {depth : Nat} {t written : Text},
    w.Fits (0 < depth) → Ends (0 < depth) t → Scans depth t written →
    ∃ whole, Scans depth (w.spelled ++ t) whole ∧
      ∀ groups choices sequence,
        Regex.readIn groups choices sequence (whole ++ ['$']) =
          Regex.readIn groups choices (w.extend sequence) (written ++ ['$'])
  | .done, depth, t, written, _, _, h => ⟨written, h, fun _ _ _ => rfl⟩
  | .backslash, depth, t, written, hfits, hends, h => by
    have hdepth : decide (0 < depth) = false := hfits
    obtain rfl : depth = 0 := by simpa using hdepth
    obtain rfl : t = [] := hends
    obtain rfl : [] = written := Except.ok.inj (h.1 0)
    refine ⟨escape '\\', ⟨fun _ => rfl, by decide, by decide⟩, fun groups choices sequence => ?_⟩
    exact readIn_escape '\\' ['$']
  | .sign s rest, depth, t, written, hfits, hends, h => by
    obtain ⟨tail, htail, hread⟩ := rest.exists_scans hfits.2 hends h
    have hsign := htail.sign hfits.1
    rw [isDotSegment_append hends] at hsign
    refine ⟨_, by simpa [Wording.spelled] using hsign, fun groups choices sequence => ?_⟩
    have hhead : (tail ++ ['$']).head? ≠ some '*' := by
      have := htail.2.1
      cases tail with
      | nil => simp
      | cons c tail => simpa using this
    rw [List.append_assoc, readIn_sign s _ hhead, hread, Wording.extend]
  | .braces choices rest, depth, t, written, hfits, hends, h => by
    obtain ⟨tail, htail, hread⟩ := rest.exists_scans hfits.2 hends h
    obtain ⟨whole, hwhole, hreadChoices⟩ := choices.exists_scans hfits.1 htail
    refine ⟨'(' :: whole, by simpa [Wording.spelled] using hwhole.openBrace,
      fun groups earlier sequence => ?_⟩
    have hhead : ∀ r, whole ++ ['$'] ≠ '?' :: '=' :: r := by
      have := hwhole.2.2
      cases whole <;> simp_all
    have hopen : Regex.readIn groups earlier sequence ('(' :: (whole ++ ['$'])) =
        Regex.readIn (⟨false, earlier, sequence⟩ :: groups) none .empty (whole ++ ['$']) := by
      rw [Regex.readIn]
      exact hhead
    rw [List.cons_append, hopen, hreadChoices, hread, Wording.extend]

theorem Choices.exists_scans : ∀ (choices : Choices) {depth : Nat} {t written : Text},
    choices.Fits → Scans depth t written →
    ∃ whole, Scans (depth + 1) (choices.spelled ++ '}' :: t) whole ∧
      ∀ groups outer before earlier,
        Regex.readIn (⟨false, outer, before⟩ :: groups) earlier .empty (whole ++ ['$']) =
          Regex.readIn groups outer (.seq before (choices.collect earlier)) (written ++ ['$'])
  | .last choice, depth, t, written, hfits, h => by
    have hchoice : choice.Fits (0 < depth + 1) := by simpa [Choices.Fits] using hfits
    obtain ⟨whole, hwhole, hread⟩ := choice.exists_scans hchoice (by simp [Ends]) h.closeBrace
    refine ⟨whole, hwhole, fun groups outer before earlier => ?_⟩
    rw [hread]
    rfl
  | .more choice others, depth, t, written, hfits, h => by
    obtain ⟨tail, htail, hreadOthers⟩ := others.exists_scans hfits.2 h
    have hchoice : choice.Fits (0 < depth + 1) := by simpa using hfits.1
    obtain ⟨whole, hwhole, hread⟩ := choice.exists_scans hchoice (by simp [Ends]) htail.comma
    refine ⟨whole, by simpa [Choices.spelled] using hwhole, fun groups outer before earlier => ?_⟩
    rw [hread]
    exact hreadOthers groups outer before _

end

/-! ## Every text that can be scanned has a wording -/

/-- What is left of a segment at a depth of open braces: the rest of the wording in which it
stands, and then, inside braces, the other choices and what follows the closing brace. -/
inductive Worded : Nat → Text → Prop
  | outside (w : Wording) (hfits : w.Fits false) : Worded 0 w.spelled
  | closed {depth : Nat} {rest : Text} (w : Wording) (hfits : w.Fits true) (h : Worded depth rest) :
      Worded (depth + 1) (w.spelled ++ '}' :: rest)
  | another {depth : Nat} {rest : Text} (w : Wording) (hfits : w.Fits true)
      (h : Worded (depth + 1) rest) : Worded (depth + 1) (w.spelled ++ ',' :: rest)

theorem Worded.append {depth : Nat} {rest front : Text} (h : Worded depth rest)
    (f : Wording → Wording) (hspelled : ∀ w, (f w).spelled = front ++ w.spelled)
    (hfits : ∀ w : Wording, w.Fits (0 < depth) → (f w).Fits (0 < depth)) :
    Worded depth (front ++ rest) := by
  cases h with
  | outside w hw =>
    rw [← hspelled]
    exact .outside (f w) (hfits w hw)
  | closed w hw h =>
    rw [← List.append_assoc, ← hspelled]
    exact .closed (f w) (by simpa using hfits w (by simpa using hw)) h
  | another w hw h =>
    rw [← List.append_assoc, ← hspelled]
    exact .another (f w) (by simpa using hfits w (by simpa using hw)) h

/-- Inside braces the choices can be told from what follows the closing brace. -/
theorem Worded.exists_choices {depth : Nat} {rest : Text} (h : Worded (depth + 1) rest) :
    ∃ choices : Choices, choices.Fits ∧ ∃ after, Worded depth after ∧
      rest = choices.spelled ++ '}' :: after := by
  generalize hdeep : depth + 1 = deep at h
  induction h with
  | outside w hw => cases hdeep
  | closed w hw h ih =>
    cases hdeep
    exact ⟨.last w, hw, _, h, rfl⟩
  | another w hw h ih =>
    cases hdeep
    obtain ⟨others, hothers, after, hafter, rfl⟩ := ih rfl
    exact ⟨.more w others, ⟨hw, hothers⟩, after, hafter, by simp [Choices.spelled]⟩

theorem Worded.sign {depth : Nat} {rest : Text} (h : Worded depth rest) (s : Sign)
    (hfits : s.Fits (0 < depth)) : Worded depth (s.spelled ++ rest) :=
  h.append (.sign s) (fun _ => rfl) fun _ hw => ⟨hfits, hw⟩

theorem Worded.braces {depth : Nat} {rest : Text} (h : Worded depth rest) (choices : Choices)
    (hfits : choices.Fits) : Worded depth ('{' :: choices.spelled ++ '}' :: rest) := by
  have hspelled : ∀ w : Wording, (Wording.braces choices w).spelled =
      ('{' :: choices.spelled ++ ['}']) ++ w.spelled := fun w => by simp [Wording.spelled]
  simpa using h.append (.braces choices) hspelled fun _ hw => ⟨hfits, hw⟩

/-- A segment that can be scanned is worded all through. -/
theorem worded_of_scan {depth position : Nat} {t written : Text}
    (h : scan depth position t = .ok written) : Worded depth t := by
  induction depth, position, t using scan.induct generalizing written with
  | case1 position => exact .outside .done trivial
  | case2 depth position hdepth =>
    rw [scan, if_neg hdepth] at h
    cases h
  | case3 depth position c rest ih =>
    rw [scan] at h
    obtain ⟨_, hrest, _⟩ := bind_eq_ok_iff.1 h
    exact (ih hrest).sign (.escaped c) trivial
  | case4 depth position rest ih =>
    rw [scan] at h
    obtain ⟨_, hrest, _⟩ := bind_eq_ok_iff.1 h
    exact (ih hrest).sign .slash trivial
  | case5 depth position rest ih =>
    rw [scan] at h
    obtain ⟨_, hrest, _⟩ := bind_eq_ok_iff.1 h
    exact (ih hrest).sign .run trivial
  | case6 depth position rest ih =>
    rw [scan] at h
    obtain ⟨_, hrest, _⟩ := bind_eq_ok_iff.1 h
    exact (ih hrest).sign .one trivial
  | case7 depth position rest ih =>
    rw [scan] at h
    obtain ⟨_, hrest, _⟩ := bind_eq_ok_iff.1 h
    obtain ⟨choices, hfits, after, hafter, rfl⟩ := (ih hrest).exists_choices
    exact hafter.braces choices hfits
  | case8 position rest =>
    rw [scan] at h
    cases h
  | case9 position rest depth ih =>
    rw [scan] at h
    obtain ⟨_, hrest, _⟩ := bind_eq_ok_iff.1 h
    exact .closed .done trivial (ih hrest)
  | case10 depth position c rest hescaped hslash hrun hone hopen hclose ih =>
    rw [scan.eq_9 _ _ _ _ hescaped hslash hrun hone hopen hclose] at h
    obtain ⟨_, hrest, _⟩ := bind_eq_ok_iff.1 h
    by_cases hlone : c = '\\'
    · -- a backslash without a character behind it ends the segment
      obtain rfl : rest = [] := by
        cases rest with
        | nil => rfl
        | cons d rest => exact (hescaped d rest hlone rfl).elim
      rw [hlone]
      rw [scan] at hrest
      split at hrest
      · next hdepth =>
        rw [hdepth]
        exact .outside .backslash rfl
      · cases hrest
    · by_cases hcomma : 0 < depth ∧ c = ','
      · obtain ⟨hdepth, rfl⟩ := hcomma
        obtain ⟨d, rfl⟩ := Nat.exists_eq_add_of_lt hdepth
        exact .another .done trivial (ih hrest)
      · refine (ih hrest).sign (.plain c) ⟨?_, fun hdepth hc => hcomma ⟨by simpa using hdepth, hc⟩⟩
        have hsigns : ("\\*?/\x7b\x7d" : Text) = ['\\', '*', '?', '/', '{', '}'] := rfl
        simp only [hsigns, List.mem_cons, List.not_mem_nil, or_false, not_or]
        exact ⟨hlone, hrun, hone, hslash, hopen, hclose⟩

/-! ## Compiled segments -/

theorem exists_wording_of_regexText {segment written : Text} (h : regexText segment = .ok written) :
    ∃ w : Wording, w.Fits false ∧ w.spelled = segment := by
  obtain ⟨scanned, hscan, _⟩ := bind_eq_ok_iff.1 h
  cases worded_of_scan hscan with
  | outside w hfits => exact ⟨w, hfits, rfl⟩

theorem Wording.ofText?_regexText {written : Text} {w : Wording} (hfits : w.Fits false)
    (h : regexText w.spelled = .ok written) : Regex.ofText? written = some w.expression := by
  obtain ⟨scanned, hscan, hwritten⟩ := bind_eq_ok_iff.1 h
  obtain ⟨whole, hwhole, hread⟩ := @Wording.exists_scans w 0 [] [] hfits rfl scans_nil
  rw [List.append_nil] at hwhole
  obtain rfl : scanned = whole := Except.ok.inj (hscan.symm.trans (hwhole.1 0))
  obtain rfl := Except.ok.inj hwritten
  have hopening : Regex.readIn [] none .empty
      (('^' :: if isDotSegment w.spelled = true then [] else noLeadingDot) ++ scanned ++ ['$']) =
        Regex.readIn [] none (opening w.spelled) (scanned ++ ['$']) := by
    rw [opening]
    cases isDotSegment w.spelled with
    | true => rfl
    | false => rfl
  rw [Regex.ofText?, hopening, hread]
  rfl

theorem Wording.compile_spelled {written : Text} {w : Wording} (hfits : w.Fits false)
    (h : regexText w.spelled = .ok written) : compile w.spelled = .ok w.expression.fullMatch := by
  have hcompile : compile w.spelled =
      .ok fun name => (Regex.ofText? written).any (·.fullMatch name) := by
    rw [compile, regex, h]
    rfl
  rw [hcompile, Wording.ofText?_regexText hfits h]
  rfl

/-- A compiled segment matches exactly the names that the segment describes. -/
theorem fullMatch_iff_describes {segment written : Text} (h : regexText segment = .ok written) :
    ∃ r, Regex.ofText? written = some r ∧ compile segment = .ok r.fullMatch ∧
      ∀ name, r.fullMatch name = true ↔ Describes segment name := by
  obtain ⟨w, hfits, rfl⟩ := exists_wording_of_regexText h
  have hread := Wording.ofText?_regexText hfits h
  refine ⟨w.expression, hread, Wording.compile_spelled hfits h, fun name => ?_⟩
  constructor
  · intro hname
    obtain ⟨hvisible, hw⟩ := (w.fullMatch_expression_iff name).1 hname
    exact ⟨hvisible, w, hfits, rfl, hw⟩
  · rintro ⟨hvisible, w', hfits', hspelled, hw'⟩
    -- another wording of the same segment is read as the same expression
    have hread' := Wording.ofText?_regexText hfits' (hspelled ▸ h)
    have hexpression : w.expression = w'.expression := Option.some.inj (hread.symm.trans hread')
    rw [hexpression, w'.fullMatch_expression_iff, hspelled]
    exact ⟨hvisible, hw'⟩

theorem fullMatch_iff_describes_of_choices :
    regexText ".\x7ba/,\\\x7b*,b\x7b?,\x7d\x7d,c" =
        .ok "^\\.(a/(?=[^\\.])|\\\x7b[^/]*|b([^/]|)),c$" ∧
      ∃ r, Regex.ofText? "^\\.(a/(?=[^\\.])|\\\x7b[^/]*|b([^/]|)),c$" = some r ∧
        compile ".\x7ba/,\\\x7b*,b\x7b?,\x7d\x7d,c" = .ok r.fullMatch ∧
        ∀ name, r.fullMatch name = true ↔ Describes ".\x7ba/,\\\x7b*,b\x7b?,\x7d\x7d,c" name :=
  ⟨rfl, fullMatch_iff_describes rfl⟩

end Glob

end ScopedShell
