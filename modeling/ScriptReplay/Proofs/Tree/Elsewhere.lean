import ScriptReplay.Proofs.Tree.Walking

namespace ScriptReplay.Tree

open ScriptReplay.Path

/-- The trees agree everywhere but at `l`, where a file stands in each of them, or nothing. -/
structure AlikeBut (l : Location) (t t' : Tree) : Prop where
  here_eq : t'.here = t.here
  unlisted_eq : t'.unlisted = t.unlisted
  others_eq : t'.nodes.filter (·.1 ≠ l) = t.nodes.filter (·.1 ≠ l)
  plain : t.Plain l
  plain' : t'.Plain l
  named : ∃ k n, l = k ++ [n] ∧ IsName n ∧ slash ∉ n

theorem lookup_filter_ne {α : Type} (nodes : List (Location × α)) {l m : Location} (h : m ≠ l) :
    (nodes.filter (·.1 ≠ l)).lookup m = nodes.lookup m := by
  induction nodes with
  | nil => rfl
  | cons node nodes ih =>
    obtain ⟨k, a⟩ := node
    by_cases hk : k = l
    · have hm : (m == k) = false := by simp [hk, h]
      rw [List.filter_cons_of_neg (by simp [hk]), ih, List.lookup_cons, hm]
    · rw [List.filter_cons_of_pos (by simp [hk]), List.lookup_cons, List.lookup_cons, ih]

namespace AlikeBut

variable {l : Location} {t t' : Tree}

theorem at?_eq (h : AlikeBut l t t') {m : Location} (hm : m ≠ l) : t'.at? m = t.at? m := by
  unfold at?
  rw [← lookup_filter_ne t'.nodes hm, h.others_eq, lookup_filter_ne t.nodes hm]

end AlikeBut

theorem at?_put_self {t : Tree} {l : Location} {node : Node} (h : l ≠ []) :
    (t.put l node).at? l = some node := by
  rw [at?, if_neg h, put, List.lookup_cons_self]

theorem alikeBut_put {t : Tree} {l k : Location} {n : FileName} (content : Content)
    (h : t.Plain l) (hl : l = k ++ [n]) (hn : IsName n) (hfree : slash ∉ n) :
    AlikeBut l t (t.put l (.file content)) := by
  have hput : (t.put l (.file content)).at? l = some (.file content) := at?_put_self (by simp [hl])
  refine ⟨rfl, rfl, ?_, h, fun node hnode => ⟨content, ?_⟩, ⟨k, n, hl, hn, hfree⟩⟩
  · rw [put, List.filter_cons_of_neg (by simp), List.filter_filter]
    simp only [Bool.and_self]
  · rw [hput] at hnode
    exact (Option.some.inj hnode).symm

def SameBut (l : Location) (r r' : Except FileError Place) : Prop :=
  r' = r ∨ EndsAt l r ∧ EndsAt l r'

namespace AlikeBut

variable {l : Location} {t t' : Tree}

theorem walk_sameBut (h : AlikeBut l t t') (links : Nat) (cur : Location) (ns : List FileName) :
    SameBut l (t.walk .target links cur ns) (t'.walk .target links cur ns) := by
  match ns with
  | [] =>
    rw [walk, walk]
    exact .inl rfl
  | n :: rest =>
    by_cases hstay : n = finalSlash ∨ n = dot
    · rw [walk_stay hstay, walk_stay hstay]
      exact walk_sameBut h links cur rest
    by_cases hup : n = dotDot
    · rw [hup, walk_up, walk_up]
      exact walk_sameBut h links cur.dropLast rest
    have hn : IsName n := isName_of_step hstay hup
    -- at `l` no walk goes on, and at every other name the trees hold the same
    by_cases hl : cur ++ [n] = l
    · subst hl
      exact .inr ⟨endsAt_of_name hn h.plain rest, endsAt_of_name hn h.plain' rest⟩
    by_cases hlong : longestName < n.length
    · rw [walk_long hn hlong, walk_long hn hlong]
      exact .inl rfl
    rw [walk_name hn hlong, walk_name hn hlong, h.at?_eq hl]
    cases t.at? (cur ++ [n]) with
    | none => exact .inl rfl
    | some node =>
      cases node with
      | directory => exact walk_sameBut h links (cur ++ [n]) rest
      | file content => exact .inl rfl
      | link target =>
        cases links with
        | zero => exact .inl rfl
        | succ links =>
          exact walk_sameBut h links (if isAbsolute target then [] else cur) (steps target ++ rest)
termination_by (links, ns.length)

theorem resolve_sameBut (h : AlikeBut l t t') (p : Path) :
    SameBut l (t.resolve .target p) (t'.resolve .target p) := by
  unfold resolve
  rw [h.here_eq]
  split
  · exact .inl rfl
  · split
    · exact .inl rfl
    · split
      · exact .inl rfl
      · exact h.walk_sameBut mostLinks _ (steps p)

theorem resolve_directory_iff (h : AlikeBut l t t') (p : Path) (k : Location) :
    t'.resolve .target p = .ok (.taken k .directory) ↔
      t.resolve .target p = .ok (.taken k .directory) := by
  rcases h.resolve_sameBut p with heq | ⟨hends, hends'⟩
  · rw [heq]
  · constructor
    · intro hp
      rw [hp] at hends'
      cases hends'
    · intro hp
      rw [hp] at hends
      cases hends

end AlikeBut

def entryOf (k : Location) (node : Location × Node) : Option FileName :=
  match node.1.getLast? with
  | some n => if node.1.dropLast = k then some n else none
  | none => none

theorem location_of_entryOf {k : Location} {node : Location × Node} {n : FileName}
    (h : entryOf k node = some n) : node.1 = k ++ [n] := by
  unfold entryOf at h
  split at h
  · rename_i m hm
    split at h
    · rename_i hk
      obtain ⟨front, hfront⟩ := List.getLast?_eq_some_iff.mp hm
      rw [hfront, List.dropLast_concat] at hk
      rw [hfront, hk, Option.some.inj h]
    · cases h
  · cases h

theorem entries_of_directory {t : Tree} {dir : Path} {k : Location}
    (h : t.resolve .target dir = .ok (.taken k .directory)) :
    t.entries dir = t.nodes.filterMap (entryOf k) := by
  rw [entries, h]
  rfl

theorem entries_of_other {t : Tree} {dir : Path}
    (h : ∀ k, t.resolve .target dir ≠ .ok (.taken k .directory)) : t.entries dir = [] := by
  unfold entries
  split
  · rename_i k hk
    exact absurd hk (h k)
  · rfl

def isOtherFile (t : Tree) (l : Location) (p : Path) : Bool :=
  match t.resolve .target p with
  | .ok (.taken m (.file _)) => decide (m ≠ l)
  | _ => false

theorem isOtherFile_of_endsAt {t : Tree} {l : Location} {p : Path}
    (h : EndsAt l (t.resolve .target p)) : t.isOtherFile l p = false := by
  unfold isOtherFile
  split
  · rename_i hp
    rw [hp] at h
    cases h
    exact decide_eq_false (fun hne => hne rfl)
  · rfl

theorem isDirectory_of_endsAt {t : Tree} {l : Location} {p : Path}
    (h : EndsAt l (t.resolve .target p)) : t.isDirectory p = false := by
  unfold isDirectory node?
  split
  · rename_i hp
    rw [hp] at h
    cases h
    rfl
  · rfl

theorem listingFault?_of_endsAt {t : Tree} {l : Location} {p : Path}
    (h : EndsAt l (t.resolve .target p)) : t.listingFault? p = none := by
  unfold listingFault?
  split
  · rename_i hp
    rw [hp] at h
    cases h
  · rfl

theorem isFile_of_isOtherFile {t : Tree} {l : Location} {p : Path} (h : t.isOtherFile l p = true) :
    t.isFile p = true := by
  unfold isOtherFile at h
  split at h
  · rename_i hp
    rw [isFile, node?, hp]
  · cases h

namespace AlikeBut

variable {l : Location} {t t' : Tree}

theorem isOtherFile_eq (h : AlikeBut l t t') (p : Path) : t'.isOtherFile l p = t.isOtherFile l p := by
  rcases h.resolve_sameBut p with heq | ⟨hends, hends'⟩
  · rw [isOtherFile, heq, isOtherFile]
  · rw [isOtherFile_of_endsAt hends, isOtherFile_of_endsAt hends']

theorem isDirectory_eq (h : AlikeBut l t t') (p : Path) : t'.isDirectory p = t.isDirectory p := by
  rcases h.resolve_sameBut p with heq | ⟨hends, hends'⟩
  · rw [isDirectory, node?, heq, isDirectory, node?]
  · rw [isDirectory_of_endsAt hends, isDirectory_of_endsAt hends']

theorem listingFault?_eq (h : AlikeBut l t t') (p : Path) :
    t'.listingFault? p = t.listingFault? p := by
  rcases h.resolve_sameBut p with heq | ⟨hends, hends'⟩
  · rw [listingFault?, heq, listingFault?, h.unlisted_eq]
  · rw [listingFault?_of_endsAt hends, listingFault?_of_endsAt hends']

theorem readText_eq (h : AlikeBut l t t') {p : Path} (hp : t.isOtherFile l p = true) :
    t'.readText p = t.readText p := by
  rcases h.resolve_sameBut p with heq | ⟨hends, -⟩
  · rw [readText, read, heq, readText, read]
  · rw [isOtherFile_of_endsAt hends] at hp
    cases hp

theorem entries_without (h : AlikeBut l t t') {dir : Path} {k : Location}
    (hdir : t.resolve .target dir = .ok (.taken k .directory)) (nodes : List (Location × Node)) :
    (nodes.filterMap (entryOf k)).filter (fun n => t.isOtherFile l (join dir n)) =
      ((nodes.filter (·.1 ≠ l)).filterMap (entryOf k)).filter
        fun n => t.isOtherFile l (join dir n) := by
  rw [List.filter_filterMap, List.filter_filterMap, List.filterMap_filter]
  refine congrFun (congrArg List.filterMap (funext fun node => ?_)) nodes
  by_cases hl : node.1 = l
  · rw [if_neg (by simp [hl])]
    cases hentry : entryOf k node with
    | none => rfl
    | some n =>
      have hstand : l = k ++ [n] := hl.symm.trans (location_of_entryOf hentry)
      obtain ⟨k', n', hnamed, hn, hfree⟩ := h.named
      obtain ⟨rfl, hlast⟩ := List.append_inj' (hnamed.symm.trans hstand) rfl
      obtain rfl : n' = n := by simpa using hlast
      have hends := endsAt_of_join hdir hn hfree (hstand ▸ h.plain)
      rw [← hstand] at hends
      simp [isOtherFile_of_endsAt hends]
  · rw [if_pos (by simp [hl])]

theorem entries_eq (h : AlikeBut l t t') (dir : Path) :
    (t'.entries dir).filter (fun n => t.isOtherFile l (join dir n)) =
      (t.entries dir).filter fun n => t.isOtherFile l (join dir n) := by
  by_cases hdir : ∃ k, t.resolve .target dir = .ok (.taken k .directory)
  · obtain ⟨k, hk⟩ := hdir
    rw [entries_of_directory hk, entries_of_directory ((h.resolve_directory_iff dir k).mpr hk),
      h.entries_without hk t.nodes, h.entries_without hk t'.nodes, h.others_eq]
  · have hnone : ∀ k, t.resolve .target dir ≠ .ok (.taken k .directory) := fun k hk => hdir ⟨k, hk⟩
    rw [entries_of_other hnone,
      entries_of_other fun k hk => hnone k ((h.resolve_directory_iff dir k).mp hk)]

end AlikeBut

end ScriptReplay.Tree
