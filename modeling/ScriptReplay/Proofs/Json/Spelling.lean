import ScriptReplay.Proofs.Json.Atoms

/-!
How a document may be written, with blanks wherever they may stand. A beginning of a document
amounts to a value, or to a list or an object up to where something more is awaited, and so does the
state of the reader: it takes every text that spells a value, and no others.
-/

namespace ScriptReplay.Json

def Quotable (written : Text) : Prop :=
  ∀ r, cutString (written ++ '"' :: r) = some (written, r)

inductive Strung : Text → Prop
  | nil : Strung []
  | cons {piece later : Text} (first : Piece piece) (rest : Strung later) : Strung (piece ++ later)

theorem Strung.quotable {written : Text} (h : Strung written) : Quotable written := by
  intro r
  induction h with
  | nil =>
    rw [List.nil_append, cutString.eq_def]
    rfl
  | cons hfirst _ ih =>
    rw [List.append_assoc, cutString_piece hfirst, ih]
    rfl

/-- `items` is a list up to where its next item begins, `members` an object up to where its next
name begins, `name` an object up to a colon, and `named` one up to where the value of a member
begins. -/
inductive Part where
  | value (v : Json)
  | items (items : List Json)
  | members (members : List (Text × Json))
  | name (members : List (Text × Json)) (name : Text)
  | named (members : List (Text × Json)) (name : Text)

inductive Word : Json → Text → Prop
  | null : Word .null ['n', 'u', 'l', 'l']
  | true : Word (.bool true) ['t', 'r', 'u', 'e']
  | false : Word (.bool false) ['f', 'a', 'l', 's', 'e']
  | number {written : Text} (chars : ∀ c ∈ written, isNumberChar c = true)
    (valid : isNumber written = true) : Word (.number written) written
  | string {written : Text} (strung : Strung written) : Word (.string written) (quote written)

inductive Spelled : Part → Text → Prop
  | word {v : Json} {w : Text} (word : Word v w) : Spelled (.value v) w
  | before {p : Part} {t : Text} (c : Char) (space : isSpace c = true) (part : Spelled p t) :
    Spelled p (c :: t)
  | behind {p : Part} {t : Text} (c : Char) (space : isSpace c = true) (part : Spelled p t) :
    Spelled p (t ++ [c])
  | openList : Spelled (.items []) ['[']
  | item {vs : List Json} {v : Json} {t u : Text} (front : Spelled (.items vs) t)
    (last : Spelled (.value v) u) : Spelled (.items (vs ++ [v])) (t ++ u ++ [','])
  | emptyList {t : Text} (front : Spelled (.items []) t) : Spelled (.value (.list [])) (t ++ [']'])
  | list {vs : List Json} {v : Json} {t u : Text} (front : Spelled (.items vs) t)
    (last : Spelled (.value v) u) : Spelled (.value (.list (vs ++ [v]))) (t ++ u ++ [']'])
  | openObject : Spelled (.members []) ['{']
  | name {ms : List (Text × Json)} {t : Text} (k : Text) (front : Spelled (.members ms) t)
    (strung : Strung k) : Spelled (.name ms k) (t ++ quote k)
  | colon {ms : List (Text × Json)} {k t : Text} (front : Spelled (.name ms k) t) :
    Spelled (.named ms k) (t ++ [':'])
  | member {ms : List (Text × Json)} {k t u : Text} {v : Json} (front : Spelled (.named ms k) t)
    (last : Spelled (.value v) u) : Spelled (.members (ms ++ [(k, v)])) (t ++ u ++ [','])
  | emptyObject {t : Text} (front : Spelled (.members []) t) :
    Spelled (.value (.object [])) (t ++ ['}'])
  | object {ms : List (Text × Json)} {k t u : Text} {v : Json} (front : Spelled (.named ms k) t)
    (last : Spelled (.value v) u) : Spelled (.value (.object (ms ++ [(k, v)]))) (t ++ u ++ ['}'])

def Spells (v : Json) (t : Text) : Prop :=
  Spelled (.value v) t

theorem Spelled.blanks_before {p : Part} {t gap : Text} (hgap : ∀ c ∈ gap, isSpace c = true)
    (h : Spelled p t) : Spelled p (gap ++ t) := by
  induction gap with
  | nil => exact h
  | cons c gap ih =>
    obtain ⟨hc, hrest⟩ := List.forall_mem_cons.mp hgap
    exact .before c hc (ih hrest)

theorem Spelled.blanks_behind {p : Part} {t gap : Text} (hgap : ∀ c ∈ gap, isSpace c = true)
    (h : Spelled p t) : Spelled p (t ++ gap) := by
  induction gap generalizing t with
  | nil => simpa using h
  | cons c gap ih =>
    obtain ⟨hc, hrest⟩ := List.forall_mem_cons.mp hgap
    simpa using ih hrest (.behind c hc h)

def readFrom (s : State) (t : Text) : Option State :=
  (tokens t).bind (run s)

theorem readFrom_nil (s : State) : readFrom s [] = some s := by
  rw [readFrom, tokens]
  rfl

theorem readFrom_space {c : Char} (h : isSpace c = true) (s : State) (r : Text) :
    readFrom s (c :: r) = readFrom s r := by
  rw [readFrom, tokens, if_pos h, ← readFrom]

theorem tokens_token {c : Char} {r rest : Text} {k : Token} (hspace : isSpace c = false)
    (h : token? (c :: r) = some (k, rest)) : tokens (c :: r) = (tokens rest).map (k :: ·) := by
  rw [tokens, if_neg (by simp [hspace])]
  split
  · rename_i hnone
    rw [h] at hnone
    cases hnone
  · rename_i hsome
    rw [h] at hsome
    cases hsome
    rfl

theorem readFrom_token {c : Char} {r rest : Text} {k : Token} {s s' : State}
    (hspace : isSpace c = false) (h : token? (c :: r) = some (k, rest))
    (hstep : s.step k = some s') : readFrom s (c :: r) = readFrom s' rest := by
  rw [readFrom, tokens_token hspace h, readFrom]
  cases tokens rest with
  | none => rfl
  | some ks =>
    rw [Option.map_some, Option.bind_some, Option.bind_some, run, List.foldlM_cons, hstep]
    rfl

theorem readFrom_sign {c : Char} {k : Token} {s s' : State} (h : sign? c = some k)
    (hstep : s.step k = some s') (r : Text) : readFrom s (c :: r) = readFrom s' r := by
  have hother : isSpace c = false ∧ c ≠ '"' ∧ isNumberChar c = false := by
    unfold sign? at h
    split at h
    case h_7 => cases h
    all_goals decide
  obtain ⟨hspace, hquote, hnumber⟩ := hother
  refine readFrom_token hspace ?_ hstep
  rw [token?, if_neg hquote, if_neg (by simp [hnumber])]
  simp only [h]

theorem readFrom_quote {written : Text} {s s' : State} (h : Quotable written)
    (hstep : s.step (.value (.string written)) = some s') (r : Text) :
    readFrom s (quote written ++ r) = readFrom s' r := by
  rw [quote, List.cons_append, List.append_assoc, List.singleton_append]
  refine readFrom_token (by decide) ?_ hstep
  rw [token?, if_pos rfl, h r]
  rfl

def Apart (t : Text) : Prop :=
  ∀ c ∈ t.head?, isNumberChar c = false

theorem cut_of_apart {t : Text} (h : Apart t) :
    t.takeWhile isNumberChar = [] ∧ t.dropWhile isNumberChar = t := by
  cases t with
  | nil => exact ⟨rfl, rfl⟩
  | cons c t =>
    have hc : ¬ isNumberChar c = true := by simp [h c rfl]
    exact ⟨List.takeWhile_cons_of_neg hc, List.dropWhile_cons_of_neg hc⟩

theorem other_of_isNumberChar {c : Char} (h : isNumberChar c = true) :
    isSpace c = false ∧ c ≠ '"' := by
  refine ⟨?_, by rintro rfl; cases h⟩
  unfold isSpace
  simp only [Bool.or_eq_false_iff, beq_eq_false_iff_ne]
  refine ⟨⟨⟨?_, ?_⟩, ?_⟩, ?_⟩ <;> rintro rfl <;> cases h

theorem readFrom_number {written : Text} {s s' : State}
    (hchars : ∀ c ∈ written, isNumberChar c = true) (hvalid : isNumber written = true)
    (hstep : s.step (.value (.number written)) = some s') {r : Text} (hr : Apart r) :
    readFrom s (written ++ r) = readFrom s' r := by
  cases written with
  | nil => cases hvalid
  | cons c cs =>
    obtain ⟨hc, hcs⟩ := List.forall_mem_cons.mp hchars
    obtain ⟨hspace, hquote⟩ := other_of_isNumberChar hc
    have htake : (cs ++ r).takeWhile isNumberChar = cs := by
      rw [List.takeWhile_append_of_pos hcs, (cut_of_apart hr).1, List.append_nil]
    have hdrop : (cs ++ r).dropWhile isNumberChar = r := by
      rw [List.dropWhile_append_of_pos hcs, (cut_of_apart hr).2]
    rw [List.cons_append]
    refine readFrom_token hspace ?_ hstep
    rw [token?, if_neg hquote, if_pos hc, htake, hdrop, if_pos hvalid]

def Awaits (s : State) (stack : List Frame) : Prop :=
  ∀ k, k ≠ .closeList → s.step k = beginValue stack k

theorem awaits_wantValue (stack : List Frame) : Awaits (.wantValue stack) stack :=
  fun _ _ => rfl

theorem awaits_wantItem (stack : List Frame) : Awaits (.wantItem stack) (.list [] :: stack) := by
  intro k hk
  cases k with
  | closeList => exact absurd rfl hk
  | _ => rfl

def Part.state : Part → List Frame → State
  | value v, stack => .haveValue v stack
  | items [], stack => .wantItem stack
  | items (v :: vs), stack => .wantValue (.list (v :: vs) :: stack)
  | members ms, stack => .wantName ms.isEmpty ms stack
  | name ms k, stack => .wantColon ms k stack
  | named ms k, stack => .wantValue (.member ms k :: stack)

theorem state_items_concat (vs : List Json) (v : Json) (stack : List Frame) :
    (Part.items (vs ++ [v])).state stack = .wantValue (.list (vs ++ [v]) :: stack) := by
  cases vs <;> rfl

theorem state_members_concat (ms : List (Text × Json)) (m : Text × Json) (stack : List Frame) :
    (Part.members (ms ++ [m])).state stack = .wantName false (ms ++ [m]) stack := by
  simp [Part.state]

theorem awaits_items (vs : List Json) (stack : List Frame) :
    Awaits ((Part.items vs).state stack) (.list vs :: stack) := by
  cases vs with
  | nil => exact awaits_wantItem stack
  | cons v vs => exact awaits_wantValue _

theorem awaits_named (ms : List (Text × Json)) (k : Text) (stack : List Frame) :
    Awaits ((Part.named ms k).state stack) (.member ms k :: stack) :=
  awaits_wantValue _

def Part.Ends : Part → Text → Prop
  | value _, r => Apart r
  | _, _ => True

theorem ends_of_apart {r : Text} (h : Apart r) (p : Part) : p.Ends r := by
  cases p with
  | value v => exact h
  | _ => trivial

theorem apart_cons {c : Char} (h : isNumberChar c = false) (r : Text) : Apart (c :: r) := by
  rintro _ ⟨⟩
  exact h

theorem readFrom_word {v : Json} {w : Text} (h : Word v w) {s s' : State}
    (hstep : s.step (.value v) = some s') {r : Text} (hr : Apart r) :
    readFrom s (w ++ r) = readFrom s' r := by
  cases h with
  | null => exact readFrom_token (by decide) rfl hstep
  | true => exact readFrom_token (by decide) rfl hstep
  | false => exact readFrom_token (by decide) rfl hstep
  | number hchars hvalid => exact readFrom_number hchars hvalid hstep hr
  | string hstrung => exact readFrom_quote hstrung.quotable hstep r

theorem readFrom_spelled {p : Part} {t : Text} (h : Spelled p t) {s : State} {stack : List Frame}
    (hs : Awaits s stack) {r : Text} (hr : p.Ends r) :
    readFrom s (t ++ r) = readFrom (p.state stack) r := by
  induction h generalizing s stack r with
  | word hword => exact readFrom_word hword ((hs (.value _) nofun).trans rfl) hr
  | before c hspace _ ih => rw [List.cons_append, readFrom_space hspace, ih hs hr]
  | @behind p t c hspace _ ih =>
    have hc : isNumberChar c = false := by
      by_contra hnumber
      rw [(other_of_isNumberChar (eq_true_of_ne_false hnumber)).1] at hspace
      cases hspace
    rw [List.append_assoc, List.singleton_append, ih hs (ends_of_apart (apart_cons hc r) p),
      readFrom_space hspace]
  | openList => exact readFrom_sign rfl ((hs .openList nofun).trans rfl) r
  | @item vs v t u _ _ ihfront ihlast =>
    simp only [List.append_assoc, List.singleton_append]
    rw [ihfront hs trivial, ihlast (awaits_items vs stack) (apart_cons rfl r), state_items_concat]
    exact readFrom_sign rfl rfl r
  | emptyList _ ih =>
    rw [List.append_assoc, List.singleton_append, ih hs trivial]
    exact readFrom_sign rfl rfl r
  | @list vs v t u _ _ ihfront ihlast =>
    simp only [List.append_assoc, List.singleton_append]
    rw [ihfront hs trivial, ihlast (awaits_items vs stack) (apart_cons rfl r)]
    exact readFrom_sign rfl rfl r
  | openObject => exact readFrom_sign rfl ((hs .openObject nofun).trans rfl) r
  | @name ms t k _ hstrung ih =>
    rw [List.append_assoc, ih hs trivial]
    have hstep : (State.wantName ms.isEmpty ms stack).step (.value (.string k)) =
        some (.wantColon ms k stack) := by cases ms.isEmpty <;> rfl
    exact readFrom_quote hstrung.quotable hstep r
  | colon _ ih =>
    rw [List.append_assoc, List.singleton_append, ih hs trivial]
    exact readFrom_sign rfl rfl r
  | @member ms k t u v _ _ ihfront ihlast =>
    simp only [List.append_assoc, List.singleton_append]
    rw [ihfront hs trivial, ihlast (awaits_named ms k stack) (apart_cons rfl r),
      state_members_concat]
    exact readFrom_sign rfl rfl r
  | emptyObject _ ih =>
    rw [List.append_assoc, List.singleton_append, ih hs trivial]
    exact readFrom_sign rfl rfl r
  | @object ms k t u v _ _ ihfront ihlast =>
    simp only [List.append_assoc, List.singleton_append]
    rw [ihfront hs trivial, ihlast (awaits_named ms k stack) (apart_cons rfl r)]
    exact readFrom_sign rfl rfl r

theorem read_of_spells {v : Json} {t : Text} (h : Spells v t) : read t = some v := by
  have hall := readFrom_spelled h (awaits_wantValue []) (r := []) nofun
  rw [List.append_nil, readFrom_nil] at hall
  rw [read, ← readFrom, hall]
  rfl

theorem strung_of_cutString {t written rest : Text} (h : cutString t = some (written, rest)) :
    t = written ++ '"' :: rest ∧ Strung written := by
  fun_induction cutString t generalizing written with
  | case2 r =>
    cases h
    exact ⟨rfl, .nil⟩
  | case4 w x y z u hunit _ ih =>
    obtain ⟨later, hlater, rfl⟩ := putBefore_eq_some h
    obtain ⟨rfl, hstrung⟩ := ih hlater
    exact ⟨rfl, .cons (.unit hunit) hstrung⟩
  | case7 e r hne hescaped _ ih =>
    obtain ⟨later, hlater, rfl⟩ := putBefore_eq_some h
    obtain ⟨rfl, hstrung⟩ := ih hlater
    exact ⟨rfl, .cons (.letter hne hescaped) hstrung⟩
  | case10 c r hquote hbackslash hcontrol ih =>
    obtain ⟨later, hlater, rfl⟩ := putBefore_eq_some h
    obtain ⟨rfl, hstrung⟩ := ih hlater
    exact ⟨rfl, .cons (.plain hquote hbackslash hcontrol) hstrung⟩
  | _ => cases h

theorem Quotable.strung {written : Text} (h : Quotable written) : Strung written :=
  (strung_of_cutString (h [])).2

def TokenText : Token → Text → Prop
  | .openList, w => w = ['[']
  | .closeList, w => w = [']']
  | .openObject, w => w = ['{']
  | .closeObject, w => w = ['}']
  | .comma, w => w = [',']
  | .colon, w => w = [':']
  | .value v, w => Word v w

theorem sign?_eq_some {c : Char} {k : Token} (h : sign? c = some k) : TokenText k [c] := by
  unfold sign? at h
  split at h
  case h_7 => cases h
  all_goals
    cases h
    rfl

theorem word?_eq_some {t rest : Text} {v : Json} (h : word? t = some (v, rest)) :
    ∃ w, t = w ++ rest ∧ Word v w := by
  unfold word? at h
  split at h
  · cases h
    exact ⟨_, rfl, .null⟩
  · cases h
    exact ⟨_, rfl, .true⟩
  · cases h
    exact ⟨_, rfl, .false⟩
  · cases h

theorem token?_eq_some {t rest : Text} {k : Token} (h : token? t = some (k, rest)) :
    ∃ w, t = w ++ rest ∧ TokenText k w := by
  unfold token? at h
  split at h
  · cases h
  · rename_i c r
    split at h
    · rename_i hquote
      obtain ⟨⟨written, _⟩, hcut, hkey⟩ := Option.map_eq_some_iff.mp h
      cases hkey
      obtain ⟨rfl, hstrung⟩ := strung_of_cutString hcut
      exact ⟨quote written, by simp [quote, hquote], .string hstrung⟩
    · split at h
      · rename_i hnumber
        split at h
        · rename_i hvalid
          cases h
          refine ⟨c :: r.takeWhile isNumberChar, ?_, .number ?_ hvalid⟩
          · rw [List.cons_append, List.takeWhile_append_dropWhile]
          · exact List.forall_mem_cons.mpr ⟨hnumber, fun b hb => List.mem_takeWhile_imp hb⟩
        · cases h
      · split at h
        · rename_i hsign
          cases h
          exact ⟨[c], rfl, sign?_eq_some hsign⟩
        · obtain ⟨⟨v, _⟩, hword, hkey⟩ := Option.map_eq_some_iff.mp h
          cases hkey
          exact word?_eq_some hword

inductive Opened : List Frame → Text → Prop
  | nothing : Opened [] []
  | list {stack : List Frame} {vs : List Json} {t u : Text} (outer : Opened stack t)
    (front : Spelled (.items vs) u) : Opened (.list vs :: stack) (t ++ u)
  | member {stack : List Frame} {ms : List (Text × Json)} {k t u : Text} (outer : Opened stack t)
    (front : Spelled (.named ms k) u) : Opened (.member ms k :: stack) (t ++ u)

inductive Reached : State → Text → Prop
  | value {stack : List Frame} {t gap : Text} (outer : Opened stack t)
    (blank : ∀ c ∈ gap, isSpace c = true) : Reached (.wantValue stack) (t ++ gap)
  | part {stack : List Frame} {p : Part} {t u : Text} (outer : Opened stack t)
    (part : Spelled p u) : Reached (p.state stack) (t ++ u)

theorem reached_begin {stack : List Frame} {t gap w : Text} {k : Token} {s : State}
    (outer : Opened stack t) (hgap : ∀ c ∈ gap, isSpace c = true) (hk : TokenText k w)
    (h : beginValue stack k = some s) : Reached s (t ++ gap ++ w) := by
  rw [List.append_assoc]
  cases k with
  | value v =>
    obtain rfl := Option.some.inj h
    exact .part outer (p := .value v) (Spelled.blanks_before hgap (.word hk))
  | openList =>
    obtain rfl := Option.some.inj h
    cases hk
    exact .part outer (Spelled.blanks_before hgap .openList)
  | openObject =>
    obtain rfl := Option.some.inj h
    cases hk
    exact .part outer (Spelled.blanks_before hgap .openObject)
  | _ => cases h

theorem reached_behind_value {stack : List Frame} {v : Json} {t u w : Text} {k : Token} {s : State}
    (outer : Opened stack t) (part : Spells v u) (hk : TokenText k w)
    (hstep : (State.haveValue v stack).step k = some s) : Reached s (t ++ u ++ w) := by
  -- what is open around the value says which sign can close it
  cases outer with
  | nothing => cases k <;> cases hstep
  | @list stack vs t u' outer front =>
    cases k with
    | comma =>
      obtain rfl := Option.some.inj hstep
      cases hk
      have h := Reached.part outer (.item front part)
      rw [state_items_concat] at h
      simpa using h
    | closeList =>
      obtain rfl := Option.some.inj hstep
      cases hk
      simpa [Part.state] using Reached.part outer (.list front part)
    | _ => cases hstep
  | @member stack ms name t u' outer front =>
    cases k with
    | comma =>
      obtain rfl := Option.some.inj hstep
      cases hk
      have h := Reached.part outer (.member front part)
      rw [state_members_concat] at h
      simpa using h
    | closeObject =>
      obtain rfl := Option.some.inj hstep
      cases hk
      simpa [Part.state] using Reached.part outer (.object front part)
    | _ => cases hstep

theorem reached_behind_members {stack : List Frame} {ms : List (Text × Json)} {t u w : Text}
    {k : Token} {s : State} (outer : Opened stack t) (part : Spelled (.members ms) u)
    (hk : TokenText k w) (hstep : (State.wantName ms.isEmpty ms stack).step k = some s) :
    Reached s (t ++ u ++ w) := by
  cases k with
  | closeObject =>
    -- only an object without members may be closed here, as no comma stands before the brace
    cases ms with
    | nil =>
      obtain rfl := Option.some.inj hstep
      cases hk
      simpa [Part.state] using Reached.part outer (.emptyObject part)
    | cons m ms => cases hstep
  | value v =>
    cases hk with
    | @string name hstrung =>
      have hs : s = .wantColon ms name stack := by
        cases ms <;> exact (Option.some.inj hstep).symm
      rw [hs, List.append_assoc]
      exact .part outer (.name name part hstrung)
    | _ => cases ms <;> cases hstep
  | _ => cases ms <;> cases hstep

theorem reached_step {s s' : State} {t w : Text} {k : Token} (h : Reached s t)
    (hk : TokenText k w) (hstep : s.step k = some s') : Reached s' (t ++ w) := by
  cases h with
  | value outer hgap => exact reached_begin outer hgap hk hstep
  | @part stack p t u outer part =>
    cases p with
    | value v => exact reached_behind_value outer part hk hstep
    | items vs =>
      cases vs with
      | nil =>
        cases k with
        | closeList =>
          obtain rfl := Option.some.inj hstep
          cases hk
          simpa [Part.state] using Reached.part outer (.emptyList part)
        | _ => simpa using reached_begin (.list outer part) (List.forall_mem_nil _) hk hstep
      | cons v vs => simpa using reached_begin (.list outer part) (List.forall_mem_nil _) hk hstep
    | members ms => exact reached_behind_members outer part hk hstep
    | name ms name =>
      cases k with
      | colon =>
        obtain rfl := Option.some.inj hstep
        cases hk
        simpa [Part.state] using Reached.part outer (.colon part)
      | _ => cases hstep
    | named ms name =>
      simpa using reached_begin (.member outer part) (List.forall_mem_nil _) hk hstep

theorem reached_space {s : State} {t : Text} {c : Char} (hc : isSpace c = true)
    (h : Reached s t) : Reached s (t ++ [c]) := by
  cases h with
  | value outer hgap =>
    rw [List.append_assoc]
    refine .value outer fun b hb => ?_
    rcases List.mem_append.mp hb with hb | hb
    · exact hgap b hb
    · exact List.mem_singleton.mp hb ▸ hc
  | part outer part =>
    rw [List.append_assoc]
    exact .part outer (.behind c hc part)

theorem reached_run {s s' : State} {ks : List Token} {front t : Text} (hks : tokens t = some ks)
    (hrun : run s ks = some s') (h : Reached s front) : Reached s' (front ++ t) := by
  fun_induction tokens t generalizing s ks front with
  | case1 =>
    cases hks
    cases hrun
    simpa using h
  | case2 c r hc ih => simpa using ih hks hrun (reached_space hc h)
  | case3 => cases hks
  | case4 c r hc k rest htoken ih =>
    obtain ⟨ks, hrest, rfl⟩ := Option.map_eq_some_iff.mp hks
    obtain ⟨w, hw, hk⟩ := token?_eq_some htoken
    rw [run, List.foldlM_cons] at hrun
    obtain ⟨next, hstep, hrun⟩ := Option.bind_eq_some_iff.mp hrun
    rw [hw, ← List.append_assoc]
    exact ih hrest hrun (reached_step h hk hstep)

theorem spells_of_reached {v : Json} {t : Text} (h : Reached (.haveValue v []) t) : Spells v t := by
  generalize hs : State.haveValue v [] = s at h
  cases h with
  | value => cases hs
  | @part stack p t u outer part =>
    cases p with
    | value v =>
      cases hs
      cases outer
      exact part
    | items vs => cases vs <;> cases hs
    | _ => cases hs

theorem read_eq_some_iff {v : Json} {t : Text} : read t = some v ↔ Spells v t := by
  refine ⟨fun h => ?_, read_of_spells⟩
  unfold read at h
  split at h
  · rename_i v hv
    cases h
    obtain ⟨ks, hks, hrun⟩ := Option.bind_eq_some_iff.mp hv
    exact spells_of_reached (reached_run hks hrun (.value .nothing (List.forall_mem_nil _)))
  · cases h

end ScriptReplay.Json
