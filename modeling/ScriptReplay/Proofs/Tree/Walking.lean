import ScriptReplay.Proofs.Tree.LastName

namespace ScriptReplay

namespace Path

theorem names_slash (r : Path) : names (slash :: r) = names r := by
  simp [names]

theorem names_end {c : UInt8} (hc : c ≠ slash) (r : Path) :
    names (c :: slash :: r) = [c] :: names r := by
  simp [names, hc]

theorem names_ne_nil {c : UInt8} (hc : c ≠ slash) (r : Path) : names (c :: r) ≠ [] := by
  rw [names.eq_def]
  simp only [if_neg hc]
  split
  · simp
  · split
    · simp
    · split <;> simp

theorem names_cons {c d : UInt8} (hc : c ≠ slash) (hd : d ≠ slash) {r : Path} {n : FileName}
    {ns : List FileName} (h : names (d :: r) = n :: ns) :
    names (c :: d :: r) = (c :: n) :: ns := by
  rw [names.eq_def]
  simp only [if_neg hc, if_neg hd, h]

theorem names_append_slash (a b : Path) : names (a ++ slash :: b) = names a ++ names b := by
  fun_induction names a with
  | case1 => exact names_slash b
  | case2 r ih => exact (names_slash _).trans ih
  | case3 c hc => exact names_end hc b
  | case4 c hc r ih => exact (names_end hc _).trans (congrArg _ ih)
  | case5 c hc d r hd hnone ih => exact absurd hnone (names_ne_nil hd r)
  | case6 c hc d r hd n ns hnames ih =>
    rw [hnames] at ih ⊢
    exact names_cons hc hd ih

theorem names_of_free {n : FileName} (hne : n ≠ []) (h : slash ∉ n) : names n = [n] := by
  fun_induction names n with
  | case1 => exact absurd rfl hne
  | case2 r ih => exact absurd List.mem_cons_self h
  | case3 c hc => rfl
  | case4 c hc r ih => exact absurd (List.mem_cons_of_mem _ List.mem_cons_self) h
  | case5 c hc d r hd hnone ih => exact absurd hnone (names_ne_nil hd r)
  | case6 c hc d r hd n ns hnames ih =>
    have hrest := ih (List.cons_ne_nil d r) fun hmem => h (List.mem_cons_of_mem _ hmem)
    rw [hrest]

theorem join_of_free {dir n : Path} (hdir : dir ≠ []) (h : slash ∉ n) :
    ∃ d, join dir n = d ++ slash :: n ∧ (dir = d ∨ dir = d ++ [slash]) := by
  have hrel : ¬ isAbsolute n = true := by
    intro habs
    exact h (List.mem_of_head? (beq_iff_eq.mp habs))
  unfold join
  rw [if_neg hrel]
  by_cases hends : endsWithSlash dir = true
  · obtain ⟨d, rfl⟩ := List.getLast?_eq_some_iff.mp (beq_iff_eq.mp hends)
    rw [if_pos (.inr hends), List.append_assoc, List.singleton_append]
    exact ⟨d, rfl, .inr rfl⟩
  · rw [if_neg (not_or.mpr ⟨hdir, hends⟩)]
    exact ⟨dir, rfl, .inl rfl⟩

theorem isAbsolute_join {dir n : Path} (hdir : dir ≠ []) (h : slash ∉ n) :
    isAbsolute (join dir n) = isAbsolute dir := by
  obtain ⟨d, hjoin, rfl | rfl⟩ := join_of_free hdir h
  · obtain ⟨b, r, rfl⟩ := List.exists_cons_of_ne_nil hdir
    rw [hjoin]
    rfl
  · rw [hjoin]
    cases d <;> rfl

theorem names_join {dir n : Path} (hdir : dir ≠ []) (hne : n ≠ []) (h : slash ∉ n) :
    names (join dir n) = names dir ++ [n] := by
  obtain ⟨d, hjoin, rfl | rfl⟩ := join_of_free hdir h
  · rw [hjoin, names_append_slash, names_of_free hne h]
  · rw [hjoin, names_append_slash, names_append_slash, names_of_free hne h, names, List.append_nil]

theorem steps_join {dir n : Path} (hdir : dir ≠ []) (hne : n ≠ []) (h : slash ∉ n) :
    steps (join dir n) = names dir ++ [n] := by
  have hlast : ¬ endsWithSlash (join dir n) = true := by
    intro hends
    obtain ⟨d, hjoin, -⟩ := join_of_free hdir h
    obtain ⟨b, r, rfl⟩ := List.exists_cons_of_ne_nil hne
    have hslash := beq_iff_eq.mp hends
    rw [hjoin, List.getLast?_append, List.getLast?_cons_cons, List.getLast?_cons, Option.some_or,
      ← List.getLast?_cons] at hslash
    exact h (List.mem_of_getLast? hslash)
  rw [steps, if_neg hlast, names_join hdir hne h]

end Path

namespace Tree

open ScriptReplay.Path

theorem walk_stay {t : Tree} {aim : Aim} {links : Nat} {cur : Location} {n : FileName}
    (h : n = finalSlash ∨ n = dot) (rest : List FileName) :
    t.walk aim links cur (n :: rest) = t.walk aim links cur rest := by
  rw [walk, if_pos h]

theorem walk_up {t : Tree} {aim : Aim} {links : Nat} {cur : Location} (rest : List FileName) :
    t.walk aim links cur (dotDot :: rest) = t.walk aim links cur.dropLast rest := by
  rw [walk, if_neg (by decide), if_pos rfl]

theorem walk_long {t : Tree} {links : Nat} {cur : Location} {n : FileName} (hn : IsName n)
    (h : longestName < n.length) (rest : List FileName) :
    t.walk .target links cur (n :: rest) = .error .nameTooLong := by
  have hdots : ¬ (n = finalSlash ∨ n = dot) := fun hd => hd.elim hn.ne_finalSlash hn.ne_dot
  rw [walk, if_neg hdots, if_neg hn.ne_dotDot, if_neg (by simp), if_pos h]

theorem walk_name {t : Tree} {links : Nat} {cur : Location} {n : FileName} (hn : IsName n)
    (h : ¬ longestName < n.length) (rest : List FileName) :
    t.walk .target links cur (n :: rest) =
      match t.at? (cur ++ [n]) with
      | none => if rest = [] then .ok (.vacant (cur ++ [n])) else .error .notFound
      | some .directory => t.walk .target links (cur ++ [n]) rest
      | some (.file content) =>
        if rest = [] then .ok (.taken (cur ++ [n]) (.file content)) else .error .notDirectory
      | some (.link target) =>
        match links with
        | 0 => .error .linkLoop
        | links + 1 =>
          t.walk .target links (if isAbsolute target then [] else cur) (steps target ++ rest) := by
  have hdots : ¬ (n = finalSlash ∨ n = dot) := fun hd => hd.elim hn.ne_finalSlash hn.ne_dot
  rw [walk, if_neg hdots, if_neg hn.ne_dotDot, if_neg (by simp), if_neg h]
  dsimp only
  cases t.at? (cur ++ [n]) with
  | none => rfl
  | some node =>
    cases node with
    | directory => rfl
    | file content => rfl
    | link target => exact if_neg (by simp)

inductive GoesOn (t : Tree) (links : Nat) (cur : Location) (ns : List FileName) : Prop
  | behind (k : Location) (left : Nat)
    (on : ∀ more, t.walk .target links cur (ns ++ more) = t.walk .target left k more)
  | stops (nowhere : ∀ k, t.walk .target links cur ns ≠ .ok (.taken k .directory))
    (stuck : ∀ more, more ≠ [] → ∃ e, t.walk .target links cur (ns ++ more) = .error e)

theorem goesOn_of_step {t : Tree} {links links' : Nat} {cur cur' : Location}
    {ns ns' : List FileName} (h : GoesOn t links' cur' ns')
    (hstep : ∀ more, t.walk .target links cur (ns ++ more) = t.walk .target links' cur' (ns' ++ more)) :
    GoesOn t links cur ns := by
  cases h with
  | behind k left on => exact .behind k left fun more => (hstep more).trans (on more)
  | stops nowhere stuck =>
    have hhere := hstep []
    rw [List.append_nil, List.append_nil] at hhere
    refine .stops (fun k => hhere ▸ nowhere k) fun more hm => ?_
    rw [hstep]
    exact stuck more hm

theorem goesOn_of_error {t : Tree} {links : Nat} {cur : Location} {n : FileName} {e : FileError}
    {rest : List FileName} (h : ∀ more, t.walk .target links cur (n :: more) = .error e) :
    GoesOn t links cur (n :: rest) := by
  refine .stops (fun k hk => ?_) fun more _ => ⟨e, h _⟩
  rw [h] at hk
  cases hk

theorem goesOn_of_leaf {t : Tree} {links : Nat} {cur : Location} {n : FileName} {place : Place}
    {e : FileError} {rest : List FileName} (hleaf : ∀ k, place ≠ .taken k .directory)
    (h : ∀ more, t.walk .target links cur (n :: more) =
      if more = [] then .ok place else .error e) :
    GoesOn t links cur (n :: rest) := by
  refine .stops (fun k hk => ?_) fun more hm => ⟨e, ?_⟩
  · rw [h] at hk
    split at hk
    · exact hleaf k (Except.ok.inj hk)
    · cases hk
  · rw [List.cons_append, h, if_neg (List.append_ne_nil_of_right_ne_nil rest hm)]

theorem goesOn (t : Tree) (links : Nat) (cur : Location) (ns : List FileName) :
    GoesOn t links cur ns := by
  -- on the names left, and on the links left first: a link puts its own names in front
  match ns with
  | [] => exact .behind cur links fun more => rfl
  | n :: rest =>
    by_cases hstay : n = finalSlash ∨ n = dot
    · exact goesOn_of_step (goesOn t links cur rest) fun more => walk_stay hstay _
    by_cases hup : n = dotDot
    · subst hup
      exact goesOn_of_step (goesOn t links cur.dropLast rest) fun more => walk_up _
    have hn : IsName n := isName_of_step hstay hup
    by_cases hlong : longestName < n.length
    · exact goesOn_of_error (walk_long hn hlong)
    have hwalk := @walk_name t links cur n hn hlong
    cases hat : t.at? (cur ++ [n]) with
    | none =>
      simp only [hat] at hwalk
      exact goesOn_of_leaf (fun k hk => by cases hk) hwalk
    | some node =>
      simp only [hat] at hwalk
      cases node with
      | directory => exact goesOn_of_step (goesOn t links (cur ++ [n]) rest) fun more => hwalk _
      | file content => exact goesOn_of_leaf (fun k hk => by cases hk) hwalk
      | link target =>
        cases links with
        | zero => exact goesOn_of_error hwalk
        | succ links =>
          refine goesOn_of_step (goesOn t links (if isAbsolute target then [] else cur)
            (steps target ++ rest)) fun more => ?_
          rw [List.append_assoc]
          exact hwalk _
termination_by (links, ns.length)

inductive EndsAt (l : Location) : Except FileError Place → Prop
  | error (e : FileError) : EndsAt l (.error e)
  | vacant : EndsAt l (.ok (.vacant l))
  | file (content : Content) : EndsAt l (.ok (.taken l (.file content)))

def Plain (t : Tree) (l : Location) : Prop :=
  ∀ node, t.at? l = some node → ∃ content, node = .file content

theorem endsAt_of_name {t : Tree} {links : Nat} {cur : Location} {n : FileName} (hn : IsName n)
    (h : t.Plain (cur ++ [n])) (rest : List FileName) :
    EndsAt (cur ++ [n]) (t.walk .target links cur (n :: rest)) := by
  by_cases hlong : longestName < n.length
  · rw [walk_long hn hlong]
    exact .error _
  · rw [walk_name hn hlong]
    cases hat : t.at? (cur ++ [n]) with
    | none =>
      by_cases hrest : rest = []
      · simp only [if_pos hrest]
        exact .vacant
      · simp only [if_neg hrest]
        exact .error _
    | some node =>
      obtain ⟨content, rfl⟩ := h node hat
      by_cases hrest : rest = []
      · simp only [if_pos hrest]
        exact .file content
      · simp only [if_neg hrest]
        exact .error _

theorem walk_behind {t : Tree} {links : Nat} {cur k : Location} {dir : Path}
    (h : t.walk .target links cur (steps dir) = .ok (.taken k .directory)) :
    ∃ left, ∀ more, t.walk .target links cur (names dir ++ more) = t.walk .target left k more := by
  have hnext : ∃ more, steps dir = names dir ++ more ∧ (more = [] ∨ more = [finalSlash]) := by
    unfold steps
    split
    · exact ⟨_, rfl, .inr rfl⟩
    · exact ⟨[], (List.append_nil _).symm, .inl rfl⟩
  obtain ⟨more, hsteps, hmore⟩ := hnext
  rw [hsteps] at h
  cases goesOn t links cur (names dir) with
  | behind k' left on =>
    have hend : t.walk .target left k' more = .ok (.taken k' .directory) := by
      rcases hmore with rfl | rfl
      · rw [walk]
      · rw [walk_stay (.inl rfl), walk]
    rw [on, hend] at h
    cases h
    exact ⟨left, on⟩
  | stops nowhere stuck =>
    rcases hmore with rfl | rfl
    · rw [List.append_nil] at h
      exact absurd h (nowhere k)
    · obtain ⟨e, he⟩ := stuck [finalSlash] (List.cons_ne_nil _ _)
      rw [he] at h
      cases h

theorem endsAt_of_join {t : Tree} {dir : Path} {k : Location} {n : FileName}
    (hdir : t.resolve .target dir = .ok (.taken k .directory)) (hn : IsName n)
    (hfree : slash ∉ n) (h : t.Plain (k ++ [n])) :
    EndsAt (k ++ [n]) (t.resolve .target (join dir n)) := by
  have hne : dir ≠ [] := by
    rintro rfl
    cases hdir
  obtain ⟨left, hon⟩ := walk_behind (walk_of_resolve hdir)
  unfold resolve
  split
  · exact .error _
  · split
    · exact .error _
    · split
      · exact .error _
      · rw [isAbsolute_join hne hfree, steps_join hne hn.ne_finalSlash hfree, hon]
        exact endsAt_of_name hn h []

end Tree

end ScriptReplay
