import ScriptReplay.Proofs.Lookup
import ScriptReplay.Proofs.Tree.Writing

/-!
Trees as a file system holds them: one node at a location, and names that a path can spell. The
order in which the nodes of such a tree are kept is of no account: no path leads anywhere else, and
only the order of the entries of a directory differs.
-/

namespace ScriptReplay

namespace Path

structure IsEntryName (n : FileName) : Prop extends IsName n where
  free : slash ∉ n

instance (n : FileName) : Decidable (IsEntryName n) :=
  decidable_of_iff (n ≠ finalSlash ∧ n ≠ dot ∧ n ≠ dotDot ∧ slash ∉ n)
    ⟨fun ⟨hs, hd, hdd, hf⟩ => ⟨⟨hs, hd, hdd⟩, hf⟩,
      fun h => ⟨h.ne_finalSlash, h.ne_dot, h.ne_dotDot, h.free⟩⟩

theorem fileName?_join {dir : Path} {n : FileName} (hdir : dir ≠ []) (hn : IsEntryName n) :
    fileName? (join dir n) = some n := by
  refine fileName?_of_steps ?_ hn.toIsName
  rw [steps_join hdir hn.ne_finalSlash hn.free]
  exact List.getLast?_concat

end Path

namespace Tree

open ScriptReplay.Path

structure WellFormed (t : Tree) : Prop where
  distinct : (t.nodes.map (·.1)).Nodup
  named : ∀ node ∈ t.nodes, ∀ n ∈ node.1, IsEntryName n

structure Rearranged (t t' : Tree) : Prop where
  nodes : t'.nodes.Perm t.nodes
  here_eq : t'.here = t.here
  unlisted_eq : t'.unlisted = t.unlisted

theorem walk_congr {t t' : Tree} (h : ∀ l, t'.at? l = t.at? l) (aim : Aim) (links : Nat)
    (cur : Location) (ns : List FileName) : t'.walk aim links cur ns = t.walk aim links cur ns := by
  match ns with
  | [] => rw [walk, walk]
  | n :: rest =>
    rw [walk, walk]
    split
    · exact walk_congr h aim links cur rest
    · split
      · exact walk_congr h aim links cur.dropLast rest
      · split
        · rfl
        · split
          · rfl
          · dsimp only
            rw [h]
            cases t.at? (cur ++ [n]) with
            | none => rfl
            | some node =>
              cases node with
              | directory => exact walk_congr h aim links (cur ++ [n]) rest
              | file content => rfl
              | link target =>
                cases links with
                | zero => rfl
                | succ links =>
                  dsimp only
                  rw [walk_congr h aim links _ (steps target ++ rest)]
termination_by (links, ns.length)

namespace Rearranged

variable {t t' : Tree}

theorem at?_eq (h : Rearranged t t') (ht : t.WellFormed) (l : Location) : t'.at? l = t.at? l := by
  rw [at?, at?, lookup_perm h.nodes ht.distinct]

theorem resolve_eq (h : Rearranged t t') (ht : t.WellFormed) (aim : Aim) (p : Path) :
    t'.resolve aim p = t.resolve aim p := by
  rw [resolve, resolve, h.here_eq, walk_congr (h.at?_eq ht)]

theorem node?_eq (h : Rearranged t t') (ht : t.WellFormed) (p : Path) : t'.node? p = t.node? p := by
  rw [node?, node?, h.resolve_eq ht]

theorem isDirectory_eq (h : Rearranged t t') (ht : t.WellFormed) (p : Path) :
    t'.isDirectory p = t.isDirectory p := by
  rw [isDirectory, isDirectory, h.node?_eq ht]

theorem isFile_eq (h : Rearranged t t') (ht : t.WellFormed) (p : Path) :
    t'.isFile p = t.isFile p := by
  rw [isFile, isFile, h.node?_eq ht]

theorem entries_perm (h : Rearranged t t') (ht : t.WellFormed) (dir : Path) :
    (t'.entries dir).Perm (t.entries dir) := by
  by_cases hdir : ∃ k, t.resolve .target dir = .ok (.taken k .directory)
  · obtain ⟨k, hk⟩ := hdir
    have hk' : t'.resolve .target dir = .ok (.taken k .directory) := (h.resolve_eq ht _ _).trans hk
    rw [entries_of_directory hk, entries_of_directory hk']
    exact h.nodes.filterMap _
  · have hnone : ∀ k, t.resolve .target dir ≠ .ok (.taken k .directory) := fun k hk => hdir ⟨k, hk⟩
    rw [entries_of_other hnone, entries_of_other fun k => h.resolve_eq ht _ _ ▸ hnone k]

end Rearranged

def Holds (t : Tree) (dir : Path) (n : FileName) : Prop :=
  ∃ k, t.resolve .target dir = .ok (.taken k .directory) ∧ (t.at? (k ++ [n])).isSome

theorem entryOf_concat (k : Location) (n : FileName) (node : Node) :
    entryOf k (k ++ [n], node) = some n := by
  simp [entryOf]

theorem mem_entries_iff {t : Tree} {dir : Path} {n : FileName} :
    n ∈ t.entries dir ↔ t.Holds dir n := by
  constructor
  · intro h
    by_cases hdir : ∃ k, t.resolve .target dir = .ok (.taken k .directory)
    · obtain ⟨k, hk⟩ := hdir
      rw [entries_of_directory hk] at h
      obtain ⟨node, hnode, hentry⟩ := List.mem_filterMap.mp h
      refine ⟨k, hk, ?_⟩
      rw [at?, if_neg (by simp), lookup_isSome_iff, ← location_of_entryOf hentry]
      exact List.mem_map_of_mem hnode
    · rw [entries_of_other fun k hk => hdir ⟨k, hk⟩] at h
      cases h
  · rintro ⟨k, hk, hsome⟩
    rw [at?, if_neg (by simp), lookup_isSome_iff] at hsome
    obtain ⟨⟨l, node⟩, hnode, rfl⟩ := List.mem_map.mp hsome
    rw [entries_of_directory hk]
    exact List.mem_filterMap.mpr ⟨_, hnode, entryOf_concat k n node⟩

namespace WellFormed

variable {t : Tree}

theorem isEntryName (h : t.WellFormed) {dir : Path} {n : FileName} (hn : n ∈ t.entries dir) :
    IsEntryName n := by
  obtain ⟨k, -, hsome⟩ := mem_entries_iff.mp hn
  rw [at?, if_neg (by simp), lookup_isSome_iff] at hsome
  obtain ⟨node, hnode, hl⟩ := List.mem_map.mp hsome
  refine h.named node hnode n ?_
  rw [hl]
  exact List.mem_append_right k List.mem_cons_self

theorem nodup_entries (h : t.WellFormed) (dir : Path) : (t.entries dir).Nodup := by
  by_cases hdir : ∃ k, t.resolve .target dir = .ok (.taken k .directory)
  · obtain ⟨k, hk⟩ := hdir
    rw [entries_of_directory hk]
    refine (List.pairwise_map.mp h.distinct).filterMap (entryOf k) fun a b hne n hn m hm heq => ?_
    rw [location_of_entryOf hn, location_of_entryOf hm, heq] at hne
    exact hne rfl
  · rw [entries_of_other fun k hk => hdir ⟨k, hk⟩]
    exact List.nodup_nil

end WellFormed

end Tree

end ScriptReplay
