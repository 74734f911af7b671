import ScriptReplay.Tree.Basic

namespace ScriptReplay

namespace Path

structure IsName (n : FileName) : Prop where
  ne_finalSlash : n ≠ finalSlash
  ne_dot : n ≠ dot
  ne_dotDot : n ≠ dotDot

theorem isName_of_step {n : FileName} (h : ¬ (n = finalSlash ∨ n = dot)) (hd : n ≠ dotDot) :
    IsName n :=
  ⟨fun hs => h (.inl hs), fun hs => h (.inr hs), hd⟩

theorem getLast?_filter_of_pos {ns : List FileName} {n : FileName} {q : FileName → Bool}
    (h : ns.getLast? = some n) (hq : q n = true) : (ns.filter q).getLast? = some n := by
  obtain ⟨front, rfl⟩ := List.getLast?_eq_some_iff.mp h
  rw [List.filter_append, List.filter_cons_of_pos hq, List.filter_nil]
  exact List.getLast?_concat

theorem components_getLast? {p : Path} {n : FileName} (h : (names p).getLast? = some n)
    (hn : IsName n) : (components p).getLast? = some n := by
  have hkept : decide (n ≠ dot) = true := decide_eq_true hn.ne_dot
  unfold components
  cases hp : names p with
  | nil =>
    rw [hp] at h
    cases h
  | cons m ms =>
    rw [hp] at h
    by_cases hdot : m = dot ∧ !isAbsolute p
    · simp only [if_pos hdot]
      cases ms with
      | nil => exact h
      | cons k ks =>
        have hlast : ((k :: ks).filter (· ≠ dot)).getLast? = some n := getLast?_filter_of_pos h hkept
        rw [List.getLast?_cons, hlast, Option.getD_some]
    · simp only [if_neg hdot]
      exact getLast?_filter_of_pos h hkept

theorem fileName?_of_steps {p : Path} {n : FileName} (h : (steps p).getLast? = some n)
    (hn : IsName n) : fileName? p = some n := by
  unfold steps at h
  split at h
  · rw [List.getLast?_concat] at h
    exact absurd (Option.some.inj h).symm hn.ne_finalSlash
  · have hdots : ¬ (n = dot ∨ n = dotDot) := fun hd => hd.elim hn.ne_dot hn.ne_dotDot
    rw [fileName?, components_getLast? h hn]
    exact if_neg hdots

end Path

namespace Tree

theorem getLast?_cons_of_some {ns : List FileName} {n : FileName} (h : ns.getLast? = some n)
    (m : FileName) : (m :: ns).getLast? = some n := by
  rw [List.getLast?_cons, h, Option.getD_some]

theorem isName_of_walk {t : Tree} {aim : Aim} {links : Nat} {cur l : Location} {ns : List FileName}
    {content : Content} (h : t.walk aim links cur ns = .ok (.taken l (.file content))) :
    ∃ n, ns.getLast? = some n ∧ Path.IsName n := by
  have hcons {n m : FileName} {ns : List FileName} (h : ns.getLast? = some n ∧ Path.IsName n) :
      (m :: ns).getLast? = some n ∧ Path.IsName n := ⟨getLast?_cons_of_some h.1 m, h.2⟩
  fun_induction walk t aim links cur ns with
  | case1 => cases h
  | case2 links cur n rest hn ih => exact (ih h).imp fun _ => hcons
  | case3 links cur rest hn ih => exact (ih h).imp fun _ => hcons
  | case8 links cur n rest hn hd hplace hlong l' hat ih => exact (ih h).imp fun _ => hcons
  | case9 links cur n hn hd hlong l' content' hat => exact ⟨n, rfl, Path.isName_of_step hn hd⟩
  | case13 cur n rest hn hd hplace hlong l' target hat haim links ih =>
    obtain ⟨m, hm, hname⟩ := ih h
    cases rest with
    | nil => exact ⟨n, rfl, Path.isName_of_step hn hd⟩
    | cons k ks =>
      rw [List.getLast?_append, List.getLast?_cons, Option.some_or] at hm
      rw [List.getLast?_cons, List.getLast?_cons, Option.getD_some]
      exact ⟨m, hm, hname⟩
  | case11 => simp at h
  | _ => cases h

theorem walk_of_resolve {t : Tree} {aim : Aim} {p : Path} {place : Place}
    (h : t.resolve aim p = .ok place) :
    t.walk aim mostLinks (if Path.isAbsolute p then [] else t.here) (Path.steps p) = .ok place := by
  unfold resolve at h
  split at h
  · cases h
  · split at h
    · cases h
    · split at h
      · cases h
      · exact h

theorem resolve_of_isFile {t : Tree} {p : Path} (h : t.isFile p = true) :
    ∃ l content, t.resolve .target p = .ok (.taken l (.file content)) := by
  unfold isFile node? at h
  split at h
  · rename_i content hnode
    split at hnode
    · rename_i l node hplace
      cases hnode
      exact ⟨l, content, hplace⟩
    · cases hnode
  · cases h

theorem fileName?_of_isFile {t : Tree} {p : Path} (h : t.isFile p = true) :
    ∃ n, Path.fileName? p = some n := by
  obtain ⟨l, content, hplace⟩ := resolve_of_isFile h
  obtain ⟨n, hlast, hname⟩ := isName_of_walk (walk_of_resolve hplace)
  exact ⟨n, Path.fileName?_of_steps hlast hname⟩

end Tree

end ScriptReplay
