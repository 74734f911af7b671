import Mathlib
import ScriptReplay.Config.Store
import ScriptReplay.Proofs.Config.Document
import ScriptReplay.Proofs.Json.Spelling
import ScriptReplay.Proofs.Lookup
import ScriptReplay.Proofs.Text.Utf8

namespace ScriptReplay

open Json

namespace Fields

def Names (m : Text × Json) (name : String) : Prop :=
  unescape m.1 = some name.toList

def Unknown (known : List String) (m : Text × Json) : Prop :=
  ∃ name, Names m name ∧ name ∉ known

/-- The members in some order, and any others of unknown names among them. -/
def Extends (known : List String) (ms ms' : List (Text × Json)) : Prop :=
  ∃ others, (∀ m ∈ others, Unknown known m) ∧ ms'.Perm (ms ++ others)

def field? (known : List String) (m : Text × Json) : Option (String × Json) :=
  (unescape m.1).bind fun name =>
    if String.ofList name ∈ known then some (String.ofList name, m.2) else none

theorem field?_named {known : List String} {m : Text × Json} {name : String} (h : Names m name) :
    field? known m = if name ∈ known then some (name, m.2) else none := by
  have h : unescape m.1 = some name.toList := h
  simp [field?, h]

theorem field?_unknown {known : List String} {m : Text × Json} (h : Unknown known m) :
    field? known m = none := by
  obtain ⟨name, hname, hunknown⟩ := h
  rw [field?_named hname, if_neg hunknown]

theorem ofMembers_unknown {known : List String} {m : Text × Json} (h : Unknown known m)
    (ms : List (Text × Json)) : ofMembers known (m :: ms) = ofMembers known ms := by
  obtain ⟨name, hname, hunknown⟩ := h
  have hname : unescape m.1 = some name.toList := hname
  rw [ofMembers]
  cases ofMembers known ms with
  | none => simp [hname]
  | some fields => simp [hname, hunknown]

theorem ofMembers_named {known : List String} {m : Text × Json} {name : String}
    (hname : Names m name) (hknown : name ∈ known) {ms : List (Text × Json)} {fields : Fields} :
    ofMembers known (m :: ms) = some fields ↔
      ∃ rest, ofMembers known ms = some rest ∧ name ∉ rest.map (·.1) ∧
        (name, m.2) :: rest = fields := by
  have hname : unescape m.1 = some name.toList := hname
  rw [ofMembers]
  cases ofMembers known ms with
  | none => simp [hname]
  | some rest =>
    simp only [hname, String.ofList_toList, if_pos hknown, lookup_isSome_iff, Option.some.injEq,
      exists_eq_left']
    split
    · rename_i hmem
      simp only [reduceCtorEq, hmem, not_true, false_and]
    · rename_i hmem
      simp only [Option.some.injEq, hmem, not_false_iff, true_and]

theorem ofMembers_eq_some_iff {known : List String} {ms : List (Text × Json)} {fields : Fields} :
    ofMembers known ms = some fields ↔
      (∀ m ∈ ms, ∃ name, Names m name) ∧ ms.filterMap (field? known) = fields ∧
        (fields.map (·.1)).Nodup := by
  induction ms generalizing fields with
  | nil => simp +contextual [ofMembers, eq_comm]
  | cons m ms ih =>
    -- a member counts under a known name, or is passed over, or has no name and spoils all
    rw [List.forall_mem_cons]
    by_cases hnamed : ∃ name, Names m name
    · obtain ⟨name, hname⟩ := hnamed
      have hreadable : ∃ name, Names m name := ⟨name, hname⟩
      rw [List.filterMap_cons, field?_named hname]
      by_cases hknown : name ∈ known
      · rw [ofMembers_named hname hknown, if_pos hknown]
        constructor
        · rintro ⟨rest, hrest, hnew, rfl⟩
          obtain ⟨hall, rfl, hnodup⟩ := ih.mp hrest
          exact ⟨⟨hreadable, hall⟩, rfl, List.nodup_cons.mpr ⟨hnew, hnodup⟩⟩
        · rintro ⟨⟨-, hall⟩, rfl, hnodup⟩
          obtain ⟨hnew, hnodup⟩ := List.nodup_cons.mp hnodup
          exact ⟨_, ih.mpr ⟨hall, rfl, hnodup⟩, hnew, rfl⟩
      · rw [ofMembers_unknown ⟨name, hname, hknown⟩, if_neg hknown, ih]
        simp only [hreadable, true_and]
    · have hnone : unescape m.1 = none := by
        by_contra hsome
        obtain ⟨t, ht⟩ := Option.ne_none_iff_exists'.mp hsome
        exact hnamed ⟨String.ofList t, by simpa [Names] using ht⟩
      simp [ofMembers, hnone, hnamed]

variable {known : List String} {ms ms' : List (Text × Json)} {fields : Fields}

theorem ofMembers_extends (hext : Extends known ms ms') (h : ofMembers known ms = some fields) :
    ∃ fields', ofMembers known ms' = some fields' ∧
      ∀ name, fields'.lookup name = fields.lookup name := by
  obtain ⟨others, hothers, hperm⟩ := hext
  obtain ⟨hall, rfl, hnodup⟩ := ofMembers_eq_some_iff.mp h
  have hnone : others.filterMap (field? known) = [] :=
    List.filterMap_eq_nil_iff.mpr fun m hm => field?_unknown (hothers m hm)
  have hfields := hperm.filterMap (field? known)
  rw [List.filterMap_append, hnone, List.append_nil] at hfields
  refine ⟨_, ofMembers_eq_some_iff.mpr ⟨fun m hm => ?_, rfl, ?_⟩, lookup_perm hfields hnodup⟩
  · rcases List.mem_append.mp (hperm.mem_iff.mp hm) with hm | hm
    · exact hall m hm
    · obtain ⟨name, hname, -⟩ := hothers m hm
      exact ⟨name, hname⟩
  · exact (hfields.map _).nodup_iff.mpr hnodup

theorem ofMembers_middle {front back : List (Text × Json)} {m : Text × Json} {name : String}
    (hname : Names m name) (hknown : name ∈ known)
    (h : ofMembers known (front ++ m :: back) = some fields) :
    ∃ rest, ofMembers known (front ++ back) = some rest ∧ rest.lookup name = none ∧
      ∀ other, fields.lookup other = List.lookup other ((name, m.2) :: rest) := by
  obtain ⟨hall, rfl, hnodup⟩ := ofMembers_eq_some_iff.mp h
  have hperm : ((front ++ m :: back).filterMap (field? known)).Perm
      ((m :: (front ++ back)).filterMap (field? known)) := List.perm_middle.filterMap _
  rw [List.filterMap_cons, field?_named hname, if_pos hknown] at hperm
  have hnodup' := (hperm.map (·.1)).nodup_iff.mp hnodup
  obtain ⟨hnew, hrest⟩ := List.nodup_cons.mp hnodup'
  refine ⟨_, ofMembers_eq_some_iff.mpr ⟨fun n hn => ?_, rfl, hrest⟩, lookup_eq_none hnew,
    lookup_perm hperm hnodup'⟩
  rcases List.mem_append.mp hn with hn | hn
  · exact hall n (List.mem_append_left _ hn)
  · exact hall n (List.mem_append_right _ (List.mem_cons_of_mem m hn))

theorem ofMembers_replaced {front back : List (Text × Json)} {m m' : Text × Json} {name : String}
    (hname : Names m name) (hname' : Names m' name) (hknown : name ∈ known)
    (h : ofMembers known (front ++ m :: back) = some fields) :
    ∃ rest fields', ofMembers known (front ++ m' :: back) = some fields' ∧
      (∀ other, fields.lookup other = List.lookup other ((name, m.2) :: rest)) ∧
      ∀ other, fields'.lookup other = List.lookup other ((name, m'.2) :: rest) := by
  obtain ⟨rest, hrest, hnew, hlookup⟩ := ofMembers_middle hname hknown h
  have hnew : name ∉ rest.map (·.1) := by simp [← lookup_isSome_iff, hnew]
  have hfirst := (ofMembers_named hname' hknown).mpr ⟨rest, hrest, hnew, rfl⟩
  have hext : Extends known (m' :: (front ++ back)) (front ++ m' :: back) :=
    ⟨[], List.forall_mem_nil _, by simp [List.perm_middle]⟩
  obtain ⟨fields', h', hlookup'⟩ := ofMembers_extends hext hfirst
  exact ⟨rest, fields', h', hlookup, hlookup'⟩

theorem get_congr {name : String} {fields' : Fields}
    (h : fields'.lookup name = fields.lookup name) {α : Type} (read : Json → Option α)
    (standard : α) : get fields' name read standard = get fields name read standard := by
  rw [get, h, get]

theorem get_without {name : String} {v : Json} (hnone : fields.lookup name = none) {other : String}
    {α : Type} {read : Json → Option α} {standard a : α}
    (h : get ((name, v) :: fields) other read standard = some a) :
    get fields other read standard = some (if name = other then standard else a) := by
  by_cases hsame : name = other
  · subst hsame
    rw [get, hnone, if_pos rfl]
  · rw [if_neg hsame]
    rwa [get_other read standard (Ne.symm hsame)] at h

end Fields

open Fields

namespace Connection

def without (c : Connection) (field : String) : Connection :=
  let standard := Config.standard.connection
  { name := if field = "name" then standard.name else c.name
    driver := if field = "driver" then standard.driver else c.driver
    username := if field = "username" then standard.username else c.username
    password := if field = "password" then standard.password else c.password
    host := if field = "host" then standard.host else c.host
    port := if field = "port" then standard.port else c.port
    service := if field = "service_name" then standard.service else c.service
    database := if field = "database" then standard.database else c.database
    sessionInit := if field = "session_init" then standard.sessionInit else c.sessionInit }

structure Given (fields : Fields) (c : Connection) : Prop where
  name : get fields "name" string? ({} : Connection).name = some c.name
  driver : get fields "driver" driver? ({} : Connection).driver = some c.driver
  username : get fields "username" string? ({} : Connection).username = some c.username
  password : get fields "password" string? ({} : Connection).password = some c.password
  host : get fields "host" string? ({} : Connection).host = some c.host
  port : get fields "port" port? ({} : Connection).port = some c.port
  service : get fields "service_name" string? ({} : Connection).service = some c.service
  database : get fields "database" optionalString? ({} : Connection).database = some c.database
  sessionInit : get fields "session_init" strings? ({} : Connection).sessionInit =
    some c.sessionInit

theorem ofJson_eq_some_iff {v : Json} {c : Connection} :
    ofJson v = some c ↔ ∃ fields, Fields.ofJson fieldNames v = some fields ∧ Given fields c := by
  unfold ofJson
  simp only [Option.bind_eq_bind, Option.bind_eq_some_iff]
  constructor
  · rintro ⟨fields, hfields, _, h₁, _, h₂, _, h₃, _, h₄, _, h₅, _, h₆, _, h₇, _, h₈, _, h₉, ⟨⟩⟩
    exact ⟨fields, hfields, h₁, h₂, h₃, h₄, h₅, h₆, h₇, h₈, h₉⟩
  · rintro ⟨fields, hfields, h⟩
    exact ⟨fields, hfields, _, h.name, _, h.driver, _, h.username, _, h.password, _, h.host, _,
      h.port, _, h.service, _, h.database, _, h.sessionInit, rfl⟩

theorem Given.congr {fields fields' : Fields} {c : Connection} (h : Given fields c)
    (hsame : ∀ name, fields'.lookup name = fields.lookup name) : Given fields' c := by
  constructor <;> rw [get_congr (hsame _)]
  exacts [h.name, h.driver, h.username, h.password, h.host, h.port, h.service, h.database,
    h.sessionInit]

theorem Given.without {fields : Fields} {name : String} {v : Json} {c : Connection}
    (h : Given ((name, v) :: fields) c) (hnone : fields.lookup name = none) :
    Given fields (c.without name) where
  name := get_without hnone h.name
  driver := get_without hnone h.driver
  username := get_without hnone h.username
  password := get_without hnone h.password
  host := get_without hnone h.host
  port := get_without hnone h.port
  service := get_without hnone h.service
  database := get_without hnone h.database
  sessionInit := get_without hnone h.sessionInit

theorem ofJson_extends {ms ms' : List (Text × Json)} {c : Connection}
    (h : Connection.ofJson (.object ms) = some c) (hext : Extends fieldNames ms ms') :
    Connection.ofJson (.object ms') = some c := by
  obtain ⟨fields, hfields, hgiven⟩ := ofJson_eq_some_iff.mp h
  obtain ⟨fields', hfields', hsame⟩ := ofMembers_extends hext hfields
  exact ofJson_eq_some_iff.mpr ⟨fields', hfields', hgiven.congr hsame⟩

theorem ofJson_without {front back : List (Text × Json)} {m : Text × Json} {name : String}
    {c : Connection} (h : Connection.ofJson (.object (front ++ m :: back)) = some c)
    (hname : Names m name) (hknown : name ∈ fieldNames) :
    Connection.ofJson (.object (front ++ back)) = some (c.without name) := by
  obtain ⟨fields, hfields, hgiven⟩ := ofJson_eq_some_iff.mp h
  obtain ⟨rest, hrest, hnone, hlookup⟩ := ofMembers_middle hname hknown hfields
  have hfirst := hgiven.congr fun other => (hlookup other).symm
  exact ofJson_eq_some_iff.mpr ⟨rest, hrest, hfirst.without hnone⟩

end Connection

namespace Config

def without (c : Config) (field : String) : Config where
  connection := if field = "connection" then standard.connection else c.connection
  scriptsDir := if field = "scripts_dir" then standard.scriptsDir else c.scriptsDir
  categories := if field = "categories" then standard.categories else c.categories
  extension := if field = "extension" then standard.extension else c.extension

structure Given (fields : Fields) (c : Config) : Prop where
  connection : get fields "connection" Connection.ofJson standard.connection = some c.connection
  scriptsDir : get fields "scripts_dir" optionalString? standard.scriptsDir = some c.scriptsDir
  categories : get fields "categories" strings? standard.categories = some c.categories
  extension : get fields "extension" string? standard.extension = some c.extension

theorem ofJson_eq_some_iff {v : Json} {c : Config} :
    ofJson v = some c ↔ ∃ fields, Fields.ofJson fieldNames v = some fields ∧ Given fields c := by
  unfold ofJson
  simp only [Option.bind_eq_bind, Option.bind_eq_some_iff]
  constructor
  · rintro ⟨fields, hfields, _, h₁, _, h₂, _, h₃, _, h₄, ⟨⟩⟩
    exact ⟨fields, hfields, h₁, h₂, h₃, h₄⟩
  · rintro ⟨fields, hfields, h⟩
    exact ⟨fields, hfields, _, h.connection, _, h.scriptsDir, _, h.categories, _, h.extension, rfl⟩

theorem Given.congr {fields fields' : Fields} {c : Config} (h : Given fields c)
    (hsame : ∀ name, fields'.lookup name = fields.lookup name) : Given fields' c := by
  constructor <;> rw [get_congr (hsame _)]
  exacts [h.connection, h.scriptsDir, h.categories, h.extension]

theorem Given.without {fields : Fields} {name : String} {v : Json} {c : Config}
    (h : Given ((name, v) :: fields) c) (hnone : fields.lookup name = none) :
    Given fields (c.without name) where
  connection := get_without hnone h.connection
  scriptsDir := get_without hnone h.scriptsDir
  categories := get_without hnone h.categories
  extension := get_without hnone h.extension

theorem ofJson_extends {ms ms' : List (Text × Json)} {c : Config}
    (h : ofJson (.object ms) = some c) (hext : Extends fieldNames ms ms') :
    ofJson (.object ms') = some c := by
  obtain ⟨fields, hfields, hgiven⟩ := ofJson_eq_some_iff.mp h
  obtain ⟨fields', hfields', hsame⟩ := ofMembers_extends hext hfields
  exact ofJson_eq_some_iff.mpr ⟨fields', hfields', hgiven.congr hsame⟩

theorem ofJson_without {front back : List (Text × Json)} {m : Text × Json} {name : String}
    {c : Config} (h : ofJson (.object (front ++ m :: back)) = some c) (hname : Names m name)
    (hknown : name ∈ fieldNames) : ofJson (.object (front ++ back)) = some (c.without name) := by
  obtain ⟨fields, hfields, hgiven⟩ := ofJson_eq_some_iff.mp h
  obtain ⟨rest, hrest, hnone, hlookup⟩ := ofMembers_middle hname hknown hfields
  have hfirst := hgiven.congr fun other => (hlookup other).symm
  exact ofJson_eq_some_iff.mpr ⟨rest, hrest, hfirst.without hnone⟩

theorem ofJson_connection {front back : List (Text × Json)} {k : Text} {v : Json} {c : Config}
    (h : ofJson (.object (front ++ (k, v) :: back)) = some c) (hk : Names (k, v) "connection") :
    Connection.ofJson v = some c.connection ∧
      ∀ v' connection, Connection.ofJson v' = some connection →
        ofJson (.object (front ++ (k, v') :: back)) = some { c with connection } := by
  obtain ⟨fields, hfields, hgiven⟩ := ofJson_eq_some_iff.mp h
  have hknown : "connection" ∈ fieldNames := List.mem_cons_self
  refine ⟨?_, fun v' connection hv' => ?_⟩
  · obtain ⟨rest, -, -, hlookup⟩ := ofMembers_middle hk hknown hfields
    have hfirst := hgiven.congr fun other => (hlookup other).symm
    simpa only [get_self] using hfirst.connection
  · have hk' : Names (k, v') "connection" := hk
    obtain ⟨rest, fields', hfields', hlookup, hlookup'⟩ := ofMembers_replaced hk hk' hknown hfields
    have hfirst := hgiven.congr fun other => (hlookup other).symm
    refine ofJson_eq_some_iff.mpr ⟨fields', hfields', Given.congr ⟨?_, ?_, ?_, ?_⟩ hlookup'⟩
    · rw [get_self, hv']
    · simpa [get_other] using hfirst.scriptsDir
    · simpa [get_other] using hfirst.categories
    · simpa [get_other] using hfirst.extension

theorem load_eq_ok_iff {t : Tree} {path : String} {text : Text} {v : Json} {c : Config}
    (htext : t.readText (Path.ofString path) = .ok text) (hspells : Spells v text) :
    (load t path).result = .ok c ↔ ofJson v = some c := by
  have hof : ofText text = ofJson v := by
    rw [ofText, read_eq_some_iff.mpr hspells, Option.bind_some]
  unfold load
  simp only [htext, hof]
  cases ofJson v with
  | none => simp
  | some c' => simp

def Loads (v : Json) (c : Config) : Prop :=
  ∀ (t : Tree) (path : String) (text : Text), t.readText (Path.ofString path) = .ok text →
    Spells v text → (load t path).result = .ok c

theorem loads_of_ofJson {v : Json} {c : Config} (h : ofJson v = some c) : Loads v c :=
  fun _ _ _ htext hspells => (load_eq_ok_iff htext hspells).mpr h

/-- The order of members and members of unknown names make no difference, neither at the top nor in
the connection. A member that is taken out leaves its own field standard and the others alone. -/
theorem load_members {t : Tree} {path : String} {text : Text} {ms : List (Text × Json)} {c : Config}
    (htext : t.readText (Path.ofString path) = .ok text) (hspells : Spells (.object ms) text)
    (hload : (load t path).result = .ok c) :
    (∀ ms', Extends fieldNames ms ms' → Loads (.object ms') c) ∧
      (∀ front m back name, ms = front ++ m :: back → Names m name → name ∈ fieldNames →
        Loads (.object (front ++ back)) (c.without name)) ∧
      ∀ front k inner back, ms = front ++ (k, .object inner) :: back →
        Names (k, .object inner) "connection" →
        (∀ inner', Extends Connection.fieldNames inner inner' →
          Loads (.object (front ++ (k, .object inner') :: back)) c) ∧
        ∀ front' m back' name, inner = front' ++ m :: back' → Names m name →
          name ∈ Connection.fieldNames →
          Loads (.object (front ++ (k, .object (front' ++ back')) :: back))
            { c with connection := c.connection.without name } := by
  have hc := (load_eq_ok_iff htext hspells).mp hload
  refine ⟨fun ms' hext => loads_of_ofJson (ofJson_extends hc hext), ?_, ?_⟩
  · rintro front m back name rfl hname hknown
    exact loads_of_ofJson (ofJson_without hc hname hknown)
  · rintro front k inner back rfl hk
    obtain ⟨hinner, hwithin⟩ := ofJson_connection hc hk
    refine ⟨fun inner' hext => ?_, ?_⟩
    · exact loads_of_ofJson (hwithin _ _ (Connection.ofJson_extends hinner hext))
    · rintro front' m back' name rfl hname hknown
      exact loads_of_ofJson (hwithin _ _ (Connection.ofJson_without hinner hname hknown))

def partConnection : List (Text × Json) :=
  [("port".toList, .number ['7']), ("\\u0064river".toList, .string "sqlite".toList)]

def partMembers : List (Text × Json) :=
  [("connection".toList, .object partConnection), ("extension".toList, .string "ddl".toList)]

def partText : Text :=
  (Json.object partMembers).text

def otherMembers : List (Text × Json) :=
  [("extension".toList, .string "ddl".toList),
    ([], .list [.object [("port".toList, .number ['1'])]]),
    ("connection".toList, .object partConnection)]

def otherText : Text :=
  (Json.object otherMembers).dense

def partConfigs : Tree where
  nodes := [([[0x63]], .file (.bytes (Utf8.encode partText))),
    ([[0x64]], .file (.bytes (Utf8.encode otherText)))]
  here := []

def partConfig : Config :=
  { Config.standard with connection := { driver := .sqlite, port := 7 }, extension := "ddl" }

theorem partConfigs_readText :
    partConfigs.readText (Path.ofString "c") = .ok partText ∧
      partConfigs.readText (Path.ofString "d") = .ok otherText := by
  have hpart : partConfigs.read (Path.ofString "c") = .ok (.bytes (Utf8.encode partText)) := by cbv
  have hother : partConfigs.read (Path.ofString "d") = .ok (.bytes (Utf8.encode otherText)) := by
    cbv
  exact ⟨by simp [Tree.readText, hpart, Content.text?, Utf8.decode?_encode],
    by simp [Tree.readText, hother, Content.text?, Utf8.decode?_encode]⟩

theorem load_members_partConfigs :
    partConfigs.readText (Path.ofString "c") = .ok partText ∧
      Spells (.object partMembers) partText ∧ (load partConfigs "c").result = .ok partConfig ∧
      (load partConfigs "d").result = .ok partConfig ∧
      Loads (.object [("extension".toList, .string "ddl".toList)])
        { Config.standard with extension := "ddl" } ∧
      Loads (.object [("connection".toList, .object (partConnection ++ [(['x'], .null)])),
          ("extension".toList, .string "ddl".toList)])
        partConfig ∧
      Loads (.object [("connection".toList, .object [("port".toList, .number ['7'])]),
          ("extension".toList, .string "ddl".toList)])
        { Config.standard with connection := { port := 7 }, extension := "ddl" } := by
  obtain ⟨hpart, hother⟩ := partConfigs_readText
  have hspells : Spells (.object partMembers) partText := read_eq_some_iff.mp (by cbv)
  have hload : (load partConfigs "c").result = .ok partConfig :=
    (load_eq_ok_iff hpart hspells).mpr (by cbv)
  obtain ⟨hext, hwithout, hinner⟩ := load_members hpart hspells hload
  obtain ⟨hext', hwithout'⟩ := hinner [] "connection".toList partConnection _ rfl (by cbv)
  have hnameless : Extends fieldNames partMembers otherMembers := by
    refine ⟨[([], .list [.object [("port".toList, .number ['1'])]])], ?_, ?_⟩
    · exact List.forall_mem_singleton.mpr ⟨"", rfl, by decide⟩
    · let connection := otherMembers.drop 2
      change (otherMembers.take 2 ++ connection).Perm (connection ++ otherMembers.take 2)
      exact List.perm_append_comm
  have hx : Unknown Connection.fieldNames (['x'], .null) := ⟨"x", by cbv, by decide⟩
  refine ⟨hpart, hspells, hload, ?_, ?_, ?_, ?_⟩
  · exact hext _ hnameless partConfigs "d" otherText hother (read_eq_some_iff.mp (by cbv))
  · exact hwithout [] _ _ "connection" rfl (by cbv) (by decide)
  · exact hext' _ ⟨[_], List.forall_mem_singleton.mpr hx, .refl _⟩
  · exact hwithout' [("port".toList, .number ['7'])] _ [] "driver" rfl (by cbv) (by decide)

end Config

end ScriptReplay
