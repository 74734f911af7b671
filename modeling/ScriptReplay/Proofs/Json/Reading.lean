import ScriptReplay.Proofs.Json.Spelling

namespace ScriptReplay.Json

inductive WellWritten : Json → Prop
  | null : WellWritten .null
  | bool (b : Bool) : WellWritten (.bool b)
  | number (written : Text) (chars : ∀ c ∈ written, isNumberChar c = true)
    (valid : isNumber written = true) : WellWritten (.number written)
  | string (written : Text) (quotable : Quotable written) : WellWritten (.string written)
  | list (items : List Json) (all : ∀ v ∈ items, WellWritten v) : WellWritten (.list items)
  | object (members : List (Text × Json)) (names : ∀ m ∈ members, Quotable m.1)
    (all : ∀ m ∈ members, WellWritten m.2) : WellWritten (.object members)

theorem blank_newLine (depth : Nat) : ∀ c ∈ newLine depth, isSpace c = true := by
  intro c hc
  rcases List.mem_cons.mp hc with rfl | hc
  · rfl
  · rw [List.eq_of_mem_replicate hc]
    rfl

theorem spelled_items {vs ws : List Json} {v : Json} {t u : Text} {depth : Nat}
    (front : Spelled (.items vs) t) (value : Spells v u)
    (h : ∀ w ∈ ws, Spells w (pretty depth w)) (depth' : Nat) :
    Spells (.list (vs ++ v :: ws)) (t ++ u ++ prettyItems depth ws ++ newLine depth' ++ [']']) := by
  induction ws generalizing vs v t u with
  | nil =>
    have hlast := value.blanks_behind (blank_newLine depth')
    simpa [prettyItems, Spells] using Spelled.list front hlast
  | cons w ws ih =>
    obtain ⟨hw, hws⟩ := List.forall_mem_cons.mp h
    have hnext := Spelled.blanks_before (blank_newLine depth) hw
    simpa [prettyItems] using ih (.item front value) hnext hws

theorem spelled_named {ms : List (Text × Json)} {t k : Text} (front : Spelled (.members ms) t)
    (hname : Quotable k) (depth : Nat) :
    Spelled (.named ms k) (t ++ newLine depth ++ quote k ++ [':']) :=
  .colon (.name k (front.blanks_behind (blank_newLine depth)) hname.strung)

theorem spelled_members {ms ns : List (Text × Json)} {v : Json} {k t u : Text} {depth : Nat}
    (front : Spelled (.named ms k) t) (value : Spells v u) (hnames : ∀ n ∈ ns, Quotable n.1)
    (h : ∀ n ∈ ns, Spells n.2 (pretty depth n.2)) (depth' : Nat) :
    Spells (.object (ms ++ (k, v) :: ns))
      (t ++ u ++ prettyMembers depth ns ++ newLine depth' ++ ['}']) := by
  induction ns generalizing ms v k t u with
  | nil =>
    have hlast := value.blanks_behind (blank_newLine depth')
    simpa [prettyMembers, Spells] using Spelled.object front hlast
  | cons n ns ih =>
    obtain ⟨name, w⟩ := n
    obtain ⟨hname, hnames⟩ := List.forall_mem_cons.mp hnames
    obtain ⟨hw, hns⟩ := List.forall_mem_cons.mp h
    have hnext := spelled_named (.member front value) hname depth
    simpa [prettyMembers] using ih hnext (.before ' ' rfl hw) hnames hns

theorem spells_pretty {v : Json} (h : v.WellWritten) (depth : Nat) : Spells v (pretty depth v) := by
  induction h generalizing depth with
  | null => exact .word .null
  | bool b =>
    cases b with
    | true => exact .word .true
    | false => exact .word .false
  | number written hchars hvalid => exact .word (.number hchars hvalid)
  | string written hquotable => exact .word (.string hquotable.strung)
  | list items _ ih =>
    cases items with
    | nil => exact .emptyList .openList
    | cons v vs =>
      obtain ⟨hv, hvs⟩ := List.forall_mem_cons.mp ih
      have hfirst := Spelled.blanks_before (blank_newLine (depth + 1)) (hv (depth + 1))
      simpa [pretty] using spelled_items .openList hfirst (fun w hw => hvs w hw _) depth
  | object members hnames _ ih =>
    cases members with
    | nil => exact .emptyObject .openObject
    | cons m ms =>
      obtain ⟨name, v⟩ := m
      obtain ⟨hname, hnames⟩ := List.forall_mem_cons.mp hnames
      obtain ⟨hv, hms⟩ := List.forall_mem_cons.mp ih
      have hfirst := spelled_named .openObject hname (depth + 1)
      simpa [pretty] using spelled_members hfirst (.before ' ' rfl (hv (depth + 1))) hnames
        (fun n hn => hms n hn _) depth

theorem read_text {v : Json} (h : v.WellWritten) : read v.text = some v :=
  read_of_spells (spells_pretty h 0)

end ScriptReplay.Json
