import ScriptReplay.Proofs.Tree.Elsewhere
import ScriptReplay.Tree.Change

namespace ScriptReplay.Tree

open ScriptReplay.Path

theorem at?_put_other {t : Tree} {l m : Location} {node : Node} (h : m ≠ l) :
    (t.put l node).at? m = t.at? m := by
  have hml : (m == l) = false := beq_eq_false_iff_ne.mpr h
  rw [at?, at?, put, List.lookup_cons, hml]
  simp only [lookup_filter_ne t.nodes h]

theorem ne_nil_of_plain {t : Tree} {l : Location} (h : t.Plain l) : l ≠ [] := by
  rintro rfl
  obtain ⟨content, hcontent⟩ := h .directory (if_pos rfl)
  cases hcontent

theorem endsAt_vacant {l m : Location} (h : EndsAt l (.ok (.vacant m))) : m = l := by
  cases h
  rfl

theorem endsAt_taken {l m : Location} {node : Node} (h : EndsAt l (.ok (.taken m node))) :
    m = l ∧ ∃ content, node = .file content := by
  cases h
  exact ⟨rfl, _, rfl⟩

theorem plain_of_walk {t : Tree} {aim : Aim} {links : Nat} {cur l : Location} {ns : List FileName}
    {place : Place} (h : t.walk aim links cur ns = .ok place) (hl : EndsAt l (.ok place)) :
    t.Plain l := by
  fun_induction walk t aim links cur ns with
  | case1 =>
    cases h
    cases hl
  | case2 _ _ _ _ _ ih => exact ih h
  | case3 _ _ _ _ ih => exact ih h
  | case6 links cur n hn hd hlong l' hat =>
    cases h
    rw [← endsAt_vacant hl]
    intro node hnode
    rw [hat] at hnode
    cases hnode
  | case8 _ _ _ _ _ _ _ _ _ _ ih => exact ih h
  | case9 links cur n hn hd hlong l' content hat =>
    cases h
    rw [← (endsAt_taken hl).1]
    intro node hnode
    rw [hat] at hnode
    exact ⟨content, (Option.some.inj hnode).symm⟩
  | case11 =>
    cases h
    obtain ⟨-, content, hlink⟩ := endsAt_taken hl
    cases hlink
  | case13 _ _ _ _ _ _ _ _ _ _ _ _ ih => exact ih h
  | _ => cases h

theorem walk_place {t : Tree} {links : Nat} {cur : Location} {n : FileName} {rest : List FileName}
    {place : Place} (hn : IsName n) (h : t.walk .place links cur (n :: rest) = .ok place) :
    ¬ longestName < n.length ∧
      match t.at? (cur ++ [n]) with
      | none => rest = [] ∧ place = .vacant (cur ++ [n])
      | some .directory => t.walk .place links (cur ++ [n]) rest = .ok place
      | some (.file old) => rest = [] ∧ place = .taken (cur ++ [n]) (.file old)
      | some (.link target) => ∃ left, links = left + 1 ∧
        t.walk .place left (if isAbsolute target then [] else cur) (steps target ++ rest) =
          .ok place := by
  have hdots : ¬ (n = finalSlash ∨ n = dot) := fun hd => hd.elim hn.ne_finalSlash hn.ne_dot
  rw [walk, if_neg hdots, if_neg hn.ne_dotDot] at h
  by_cases hslash : rest = [finalSlash]
  · rw [if_pos ⟨rfl, hslash⟩] at h
    cases h
  by_cases hlong : longestName < n.length
  · rw [if_neg (fun hp => hslash hp.2), if_pos hlong] at h
    cases h
  rw [if_neg (fun hp => hslash hp.2), if_neg hlong] at h
  refine ⟨hlong, ?_⟩
  dsimp only at h
  cases hat : t.at? (cur ++ [n]) with
  | none =>
    by_cases hrest : rest = []
    · simp only [hat, if_pos hrest] at h
      cases h
      exact ⟨hrest, rfl⟩
    · simp only [hat, if_neg hrest] at h
      cases h
  | some node =>
    cases node with
    | directory =>
      simp only [hat] at h
      exact h
    | file old =>
      by_cases hrest : rest = []
      · simp only [hat, if_pos hrest] at h
        cases h
        exact ⟨hrest, rfl⟩
      · simp only [hat, if_neg hrest] at h
        cases h
    | link target =>
      simp only [hat] at h
      rw [if_neg (by simp)] at h
      cases links with
      | zero => cases h
      | succ left => exact ⟨left, rfl, h⟩

theorem walk_put {t : Tree} {links : Nat} {cur l : Location} {ns : List FileName} {place : Place}
    (content : Content) (h : t.walk .place links cur ns = .ok place) (hl : EndsAt l (.ok place)) :
    (t.put l (.file content)).walk .target links cur ns = .ok (.taken l (.file content)) := by
  have hplain := plain_of_walk h hl
  have hput : (t.put l (.file content)).at? l = some (.file content) :=
    at?_put_self (ne_nil_of_plain hplain)
  -- whatever the walk goes on from is kept, as it is not at `l`
  have hkept : ∀ m node, t.at? m = some node → (∀ old, node ≠ .file old) →
      (t.put l (.file content)).at? m = some node := by
    intro m node hat hnode
    have hne : m ≠ l := by
      rintro rfl
      exact (hplain node hat).elim hnode
    rw [at?_put_other hne, hat]
  match ns with
  | [] =>
    rw [walk] at h
    cases h
    cases hl
  | n :: rest =>
    by_cases hstay : n = finalSlash ∨ n = dot
    · rw [walk_stay hstay] at h ⊢
      exact walk_put content h hl
    by_cases hup : n = dotDot
    · rw [hup, walk_up] at h ⊢
      exact walk_put content h hl
    have hn : IsName n := isName_of_step hstay hup
    obtain ⟨hlong, hfound⟩ := walk_place hn h
    rw [walk_name hn hlong]
    cases hat : t.at? (cur ++ [n]) with
    | none =>
      rw [hat] at hfound
      obtain ⟨rfl, rfl⟩ := hfound
      rw [endsAt_vacant hl, hput]
      rfl
    | some node =>
      rw [hat] at hfound
      cases node with
      | directory =>
        rw [hkept _ _ hat (by simp)]
        exact walk_put content hfound hl
      | file old =>
        obtain ⟨rfl, rfl⟩ := hfound
        rw [(endsAt_taken hl).1, hput]
        rfl
      | link target =>
        obtain ⟨left, rfl, hfound⟩ := hfound
        rw [hkept _ _ hat (by simp)]
        exact walk_put content hfound hl
termination_by (links, ns.length)

theorem resolve_eq_walk {t : Tree} {aim : Aim} {p : Path} {place : Place}
    (h : t.resolve aim p = .ok place) (t' : Tree) (aim' : Aim) :
    t'.resolve aim' p =
      t'.walk aim' mostLinks (if isAbsolute p then [] else t'.here) (steps p) := by
  unfold resolve at h
  split at h
  · cases h
  · split at h
    · cases h
    · split at h
      · cases h
      · rw [resolve, if_neg ‹_›, if_neg ‹_›, if_neg ‹_›]

theorem resolve_put {t : Tree} {p : Path} {l : Location} {place : Place} (content : Content)
    (h : t.resolve .place p = .ok place) (hl : EndsAt l (.ok place)) :
    (t.put l (.file content)).resolve .target p = .ok (.taken l (.file content)) := by
  have hwalk := resolve_eq_walk h
  rw [hwalk] at h ⊢
  exact walk_put content h hl

def HasPlace (t : Tree) (p : Path) : Prop :=
  ∃ l, t.resolve .place p = .ok (.vacant l) ∨ ∃ old, t.resolve .place p = .ok (.taken l (.file old))

theorem write_of_hasPlace {t : Tree} {p : Path} (h : t.HasPlace p) (content : Content) :
    ∃ after, t.write p content = .ok after ∧ after.read p = .ok content := by
  obtain ⟨l, hplace | ⟨old, hplace⟩⟩ := h
  · refine ⟨t.put l (.file content), by rw [write, hplace], ?_⟩
    rw [read, resolve_put content hplace .vacant]
  · refine ⟨t.put l (.file content), by rw [write, hplace], ?_⟩
    rw [read, resolve_put content hplace (.file old)]

theorem write_of_not_hasPlace {t : Tree} {p : Path} (h : ¬ t.HasPlace p) :
    ∃ e, ∀ content, t.write p content = .error e := by
  unfold write
  cases hplace : t.resolve .place p with
  | error e => exact ⟨e, fun _ => rfl⟩
  | ok place =>
    cases place with
    | vacant l => exact absurd ⟨l, .inl hplace⟩ h
    | taken l node =>
      cases node with
      | file old => exact absurd ⟨l, .inr ⟨old, hplace⟩⟩ h
      | directory => exact ⟨.isDirectory, fun _ => rfl⟩
      | link target => exact ⟨.isDirectory, fun _ => rfl⟩

/-- The directories above the path can be made, and then it has a place for a file. -/
def Takes (t : Tree) (p : Path) : Prop :=
  ∃ below, t.makeParent p = .ok below ∧ below.HasPlace p

end ScriptReplay.Tree
