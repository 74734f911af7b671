import ScriptReplay.Proofs.Listing.Selection
import ScriptReplay.Proofs.Tree.Elsewhere

namespace ScriptReplay.Listing

theorem filter_sorted (q : FileName → Bool) (ns : List FileName) :
    (ns.mergeSort byName).filter q = (ns.filter q).mergeSort byName := by
  exact eq_mergeSort ((sorted_mergeSort ns).filter q) ((List.mergeSort_perm ns byName).filter q)

theorem select_entriesOf (extension : Bytes) (t : Tree) (dir : Path) :
    select extension (entriesOf t dir) =
      ((t.entries dir).filter fun n =>
        t.isFile (Path.join dir n) && hasExtension extension n).mergeSort byName := by
  rw [select, entriesOf, List.filter_map, List.map_map]
  exact congrArg (List.mergeSort · byName) (List.map_id _)

theorem filter_select {extension : Bytes} {t : Tree} {dir : Path} {q : FileName → Bool}
    (hfile : ∀ n, q n = true → t.isFile (Path.join dir n) = true) :
    (select extension (entriesOf t dir)).filter q =
      (((t.entries dir).filter q).filter (hasExtension extension)).mergeSort byName := by
  rw [select_entriesOf, filter_sorted, List.filter_filter, List.filter_filter]
  refine congrArg (List.mergeSort · byName) (List.filter_congr fun n _ => ?_)
  cases hq : q n with
  | false => rw [Bool.false_and, Bool.and_false]
  | true => rw [hfile n hq, Bool.and_true, Bool.true_and, Bool.true_and]

theorem scripts_others {l : Location} {t t' : Tree} (h : Tree.AlikeBut l t t') (dir : Path)
    (extension : Bytes) :
    ((scripts? t' dir extension).getD []).filter (t.isOtherFile l) =
      ((scripts? t dir extension).getD []).filter (t.isOtherFile l) := by
  have hfile (n : FileName) (hn : t.isOtherFile l (Path.join dir n) = true) :
      t.isFile (Path.join dir n) = true :=
    Tree.isFile_of_isOtherFile hn
  have hfile' (n : FileName) (hn : t.isOtherFile l (Path.join dir n) = true) :
      t'.isFile (Path.join dir n) = true :=
    Tree.isFile_of_isOtherFile ((h.isOtherFile_eq _).trans hn)
  have hselect :
      (select extension (entriesOf t' dir)).filter (fun n => t.isOtherFile l (Path.join dir n)) =
        (select extension (entriesOf t dir)).filter fun n => t.isOtherFile l (Path.join dir n) := by
    rw [filter_select hfile, filter_select hfile']
    exact congrArg (fun ns => (ns.filter (hasExtension extension)).mergeSort byName)
      (h.entries_eq dir)
  unfold scripts?
  rw [h.isDirectory_eq]
  split
  · rw [Option.getD_some, Option.getD_some, List.filter_map, List.filter_map]
    exact congrArg (List.map (Path.join dir)) hselect
  · rfl

end ScriptReplay.Listing
