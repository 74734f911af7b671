import Mathlib
import ScriptReplay.Proofs.Script.Routing

namespace ScriptReplay

namespace Text

def replace (sep other t : Text) : Text :=
  List.intercalate other (pieces sep t)

theorem replace_sep_append {sep : Text} (hs : sep ≠ []) (other t : Text) :
    replace sep other (sep ++ t) = other ++ replace sep other t := by
  rw [replace, pieces_of_some (breakOn_sep hs t),
    List.intercalate_cons_of_ne_nil (pieces_ne_nil sep t), List.nil_append, replace]

theorem replace_cons {sep r : Text} {c : Char} (h : ¬ sep <+: c :: r) (other : Text) :
    replace sep other (c :: r) = c :: replace sep other r := by
  have hbreak : breakOn sep (c :: r) = (breakOn sep r).map fun p => (c :: p.1, p.2) := by
    rw [breakOn, if_neg]
    rintro ⟨-, hp⟩
    exact h (List.isPrefixOf_iff_prefix.mp hp)
  cases hr : breakOn sep r with
  | none =>
    rw [hr] at hbreak
    simp [replace, pieces_of_none hr, pieces_of_none hbreak]
  | some p =>
    rw [hr] at hbreak
    rw [replace, replace, pieces_of_some hr, pieces_of_some hbreak,
      List.intercalate_cons_of_ne_nil (pieces_ne_nil sep p.2),
      List.intercalate_cons_of_ne_nil (pieces_ne_nil sep p.2)]
    simp

theorem replace_nil (sep other : Text) : replace sep other [] = [] := by
  rw [replace, pieces_of_none rfl, List.intercalate_singleton]

theorem replace_char (c : Char) (other t : Text) :
    replace [c] other t = t.flatMap fun d => if d = c then other else [d] := by
  induction t with
  | nil => exact replace_nil [c] other
  | cons d t ih =>
    rw [List.flatMap_cons, ← ih]
    by_cases hd : d = c
    · rw [if_pos hd, hd]
      exact replace_sep_append (List.cons_ne_nil c []) other t
    · rw [if_neg hd]
      exact replace_cons (fun h => hd (List.cons_prefix_cons.mp h).1.symm) other

theorem unifyBreaks_eq_replace (t : Text) :
    unifyBreaks t = replace ['\r'] ['\n'] (replace ['\r', '\n'] ['\n'] t) := by
  have hreturn (r : Text) : replace ['\r'] ['\n'] ('\r' :: r) = '\n' :: replace ['\r'] ['\n'] r :=
    replace_sep_append (List.cons_ne_nil _ _) ['\n'] r
  have hother {c : Char} (hc : c ≠ '\r') (r : Text) :
      replace ['\r'] ['\n'] (c :: r) = c :: replace ['\r'] ['\n'] r :=
    replace_cons (fun h => hc (List.cons_prefix_cons.mp h).1.symm) ['\n']
  fun_induction unifyBreaks t with
  | case1 => rw [replace_nil, replace_nil]
  | case2 r ih =>
    have hpair := replace_sep_append (List.cons_ne_nil '\r' ['\n']) ['\n'] r
    rw [List.cons_append, List.singleton_append] at hpair
    rw [hpair, List.singleton_append, hother (by decide), ih]
  | case3 r hn ih =>
    have hlone : ¬ ['\r', '\n'] <+: '\r' :: r := by
      intro h
      obtain ⟨u, hu⟩ := (List.cons_prefix_cons.mp h).2
      exact hn u hu.symm
    rw [replace_cons hlone, hreturn, ih]
  | case4 c r _ hc ih =>
    have hpair : ¬ ['\r', '\n'] <+: c :: r := fun h => hc (List.cons_prefix_cons.mp h).1.symm
    rw [replace_cons hpair, hother hc, ih]

theorem unifyBreaks_return {r : Text} (h : ¬ ['\n'] <+: r) :
    unifyBreaks ('\r' :: r) = '\n' :: unifyBreaks r := by
  rw [unifyBreaks]
  rintro u rfl
  exact h (List.prefix_append ['\n'] u)

theorem unifyBreaks_cons {c : Char} (h : c ≠ '\r') (r : Text) :
    unifyBreaks (c :: r) = c :: unifyBreaks r := by
  rw [unifyBreaks]
  · exact fun _ hc => absurd hc h
  · exact h

def lineEndings : List Text := [['\n'], ['\r', '\n'], ['\r']]

theorem unifyBreaks_replace {t : Text} (h : '\r' ∉ t) {ending : Text} (he : ending ∈ lineEndings) :
    unifyBreaks (replace ['\n'] ending t) = t := by
  rw [replace_char]
  induction t with
  | nil => rfl
  | cons c t ih =>
    have hc : c ≠ '\r' := fun hc => h (hc ▸ List.mem_cons_self)
    have ht := ih fun hmem => h (List.mem_cons_of_mem c hmem)
    rw [List.flatMap_cons]
    by_cases hn : c = '\n'
    · rw [if_pos hn, hn]
      simp only [lineEndings, List.mem_cons, List.not_mem_nil, or_false] at he
      rcases he with rfl | rfl | rfl
      · rw [List.singleton_append, unifyBreaks_cons (by decide), ht]
      · rw [List.cons_append, List.singleton_append, unifyBreaks, ht]
      · -- no line feed is left that could make a pair with the carriage return
        rw [List.singleton_append, unifyBreaks_return, ht]
        intro hp
        obtain ⟨d, -, hd⟩ := List.mem_flatMap.mp (hp.subset (List.mem_singleton_self _))
        split at hd
        · exact absurd hd (by decide)
        · rename_i hne
          exact hne (List.mem_singleton.mp hd).symm
    · rw [if_neg hn, List.singleton_append, unifyBreaks_cons hc, ht]

theorem begins_unifyBreaks {k t : Text} (hr : '\r' ∉ k) (h : k <+: t) : k <+: unifyBreaks t := by
  induction k generalizing t with
  | nil => exact List.nil_prefix
  | cons c k ih =>
    obtain ⟨u, rfl⟩ := h
    have hc : c ≠ '\r' := fun hc => hr (hc ▸ List.mem_cons_self)
    have hk := ih (fun hmem => hr (List.mem_cons_of_mem c hmem)) (List.prefix_append k u)
    rw [List.cons_append, unifyBreaks_cons hc]
    exact List.cons_prefix_cons.mpr ⟨rfl, hk⟩

theorem infix_unifyBreaks_iff {k t : Text} (hr : '\r' ∉ k) (hn : '\n' ∉ k) :
    k <:+: unifyBreaks t ↔ k <:+: t := by
  refine ⟨within_unifyBreaks t k hn, fun h => ?_⟩
  fun_induction unifyBreaks t with
  | case1 => exact h
  | case2 r ih =>
    rcases infix_of_cut (a := []) hr h with h | h
    · exact h.trans List.nil_infix
    · exact List.infix_cons (ih (infix_of_lineFeed hn h))
  | case3 r _ ih =>
    rcases infix_of_cut (a := []) hr h with h | h
    · exact h.trans List.nil_infix
    · exact List.infix_cons (ih h)
  | case4 c r _ hc ih =>
    rcases List.infix_cons_iff.mp h with h | h
    · have hb := (begins_unifyBreaks hr h).isInfix
      rwa [unifyBreaks_cons hc] at hb
    · exact List.infix_cons (ih h)

theorem capital_ne_nil (c : Char) : capital c ≠ [] := by
  unfold capital
  split <;> exact List.cons_ne_nil _ _

theorem noBlank_capital (c : Char) : capital c = [c.toUpper] ∨ NoBlank (capital c) := by
  unfold capital
  split
  case h_18 => exact .inl rfl
  all_goals exact .inr (noBlank_of_any (by decide))

theorem toUpper_of_blank {c : Char} (h : isBlank c = true) : c.toUpper = c := by
  by_cases hc : c.val ≥ 'a'.val ∧ c.val ≤ 'z'.val
  · have hl : 97 ≤ c.toNat := UInt32.le_iff_toNat_le.mp hc.1
    have hA : 'A'.toNat = 65 := rfl
    have hn := isBlank_of_between (c := c) (by omega) (UInt32.le_iff_toNat_le.mp hc.2)
    rw [h] at hn
    cases hn
  · exact dif_neg hc

theorem capital_of_blank {c d : Char} (hd : isBlank d = true) (h : d ∈ capital c) : c = d := by
  rcases noBlank_capital c with hc | hc
  · rw [hc, List.mem_singleton] at h
    rw [h, isBlank_toUpper] at hd
    rw [h, toUpper_of_blank hd]
  · rw [hc d h] at hd
    cases hd

theorem capitals_unifyBreaks (t : Text) : capitals (unifyBreaks t) = unifyBreaks (capitals t) := by
  fun_induction unifyBreaks t with
  | case1 => rfl
  | case2 r ih => exact congrArg ('\n' :: ·) ih
  | case3 r hn ih =>
    -- the capital form of what comes behind the carriage return begins with no line feed
    have hbegin : ¬ ['\n'] <+: capitals r := by
      intro hp
      cases r with
      | nil => cases List.prefix_nil.mp hp
      | cons c r =>
        obtain ⟨d, ds, hd⟩ := List.exists_cons_of_ne_nil (capital_ne_nil c)
        rw [capitals, List.flatMap_cons, hd] at hp
        obtain ⟨rfl, -⟩ := List.cons_prefix_cons.mp hp
        have hc : c = '\n' := capital_of_blank rfl (hd ▸ List.mem_cons_self)
        exact hn r (by rw [hc])
    calc capitals ('\n' :: unifyBreaks r)
      _ = '\n' :: unifyBreaks (capitals r) := congrArg ('\n' :: ·) ih
      _ = unifyBreaks (capitals ('\r' :: r)) := (unifyBreaks_return hbegin).symm
  | case4 c r _ hc ih =>
    have hfree : '\r' ∉ capital c := fun h => hc (capital_of_blank rfl h)
    have hend : ¬ ['\r'] <:+ capital c := fun h => hfree (h.subset (List.mem_singleton_self _))
    calc capitals (c :: unifyBreaks r)
      _ = capital c ++ unifyBreaks (capitals r) := congrArg (capital c ++ ·) ih
      _ = unifyBreaks (capital c ++ capitals r) := by
        rw [unifyBreaks_append hend, unifyBreaks_eq_self hfree]

end Text

open Text Directive

theorem Directive.mentionedIn_unifyBreaks (t : Text) :
    mentionedIn (unifyBreaks t) = mentionedIn t := by
  have hne : keyword ≠ [] := by decide
  have hiff : keyword <:+: unifyBreaks (capitals t) ↔ keyword <:+: capitals t :=
    infix_unifyBreaks_iff (by decide) (by decide)
  rw [mentionedIn, mentionedIn, capitals_unifyBreaks, Bool.eq_iff_iff, contains_iff hne,
    contains_iff hne, hiff]

namespace Script

theorem read_unifyBreaks (source : Text) : read (unifyBreaks source) = read source := by
  rw [read_eq, read_eq, mentionedIn_unifyBreaks, Comment.strip_unifyBreaks]

theorem read_of_lineEndings (source : Text) :
    unifyBreaks source = replace ['\r'] ['\n'] (replace ['\r', '\n'] ['\n'] source) ∧
      read (unifyBreaks source) = read source ∧
      ('\r' ∉ source →
        ∀ ending ∈ lineEndings, read (replace ['\n'] ending source) = read source) := by
  refine ⟨unifyBreaks_eq_replace source, read_unifyBreaks source, fun h ending he => ?_⟩
  rw [← read_unifyBreaks, unifyBreaks_replace h he]

def manyLines : Text := "A\n-- B\nC;\n/* D;\n*/set term ^ ;\nE;\n\nF^".toList

theorem read_of_lineEndings_manyLines :
    '\r' ∉ manyLines ∧ ['\r', '\n'] ∈ lineEndings ∧ ['\r'] ∈ lineEndings ∧
      read "A\r\n-- B\r\nC;\r\n/* D;\r\n*/set term ^ ;\r\nE;\r\n\r\nF^".toList =
        ⟨["A\n\nC".toList, "E;\n\nF".toList], true⟩ ∧
      read "A\r-- B\rC;\r/* D;\r*/set term ^ ;\rE;\r\rF^".toList =
        ⟨["A\n\nC".toList, "E;\n\nF".toList], true⟩ := by
  have hfree : '\r' ∉ manyLines := by decide
  have hpair : ['\r', '\n'] ∈ lineEndings := by decide
  have hreturn : ['\r'] ∈ lineEndings := by decide
  obtain ⟨-, -, hread⟩ := read_of_lineEndings manyLines
  have hstrip : Comment.strip manyLines = "A\n\nC;\nset term ^ ;\nE;\n\nF^".toList := by cbv
  have hlines : read manyLines = ⟨["A\n\nC".toList, "E;\n\nF".toList], true⟩ := by
    rw [read_eq, hstrip]
    decide +kernel
  refine ⟨hfree, hpair, hreturn, ?_, ?_⟩
  · rw [← hlines, ← hread hfree _ hpair, replace_char]
    rfl
  · rw [← hlines, ← hread hfree _ hreturn, replace_char]
    rfl

end Script

end ScriptReplay
