import ScriptReplay.Config.Document
import ScriptReplay.Proofs.Json.Reading

namespace ScriptReplay

namespace Json

theorem wellWritten_ofString (s : String) : (ofString s).WellWritten :=
  .string _ (cutString_escape s.toList)

theorem wellWritten_ofOptionalString (o : Option String) : (ofOptionalString o).WellWritten := by
  cases o with
  | none => exact .null
  | some s => exact wellWritten_ofString s

theorem wellWritten_ofStrings (ss : List String) : (ofStrings ss).WellWritten := by
  refine .list _ fun v hv => ?_
  obtain ⟨s, -, rfl⟩ := List.mem_map.mp hv
  exact wellWritten_ofString s

theorem wellWritten_ofNat (n : Nat) : (ofNat n).WellWritten := by
  refine .number _ (fun c hc => ?_) (isNumber_toDigits n)
  have hdigit := Nat.isDigit_of_mem_toDigits (by decide) (by decide) hc
  simp [isNumberChar, hdigit]

theorem string?_ofString (s : String) : string? (ofString s) = some s := by
  rw [ofString, ofText, string?, unescape_escape, Option.map_some, String.ofList_toList]

theorem optionalString?_ofOptionalString (o : Option String) :
    optionalString? (ofOptionalString o) = some o := by
  cases o with
  | none => rfl
  | some s => exact congrArg (Option.map some) (string?_ofString s)

theorem strings?_ofStrings (ss : List String) : strings? (ofStrings ss) = some ss := by
  rw [ofStrings, strings?]
  induction ss with
  | nil => rfl
  | cons s ss ih => rw [List.map_cons, List.mapM_cons, string?_ofString, ih]; rfl

theorem nat?_ofNat (n : Nat) : nat? (ofNat n) = some n := by
  have hdigits : (Nat.toDigits 10 n).all Char.isDigit = true :=
    List.all_eq_true.mpr fun c hc => Nat.isDigit_of_mem_toDigits (by decide) (by decide) hc
  have hvalue : Nat.ofDigitChars 10 (Nat.toDigits 10 n) 0 = n :=
    Nat.ofDigitChars_toDigits (by decide) (by decide)
  rw [ofNat, nat?, if_pos hdigits]
  exact congrArg some hvalue

theorem port?_ofNat (p : UInt16) : port? (ofNat p.toNat) = some p := by
  simp only [port?, nat?_ofNat, if_pos p.toNat_lt, UInt16.ofNat_toNat]

theorem driver?_ofString (d : Driver) : driver? (ofString d.name) = some d := by
  rw [driver?]
  · rw [string?_ofString, Option.bind_some]
    cases d <;> rfl
  · nofun

end Json

namespace Fields

open Json

structure Proper (known : List String) (fields : Fields) : Prop where
  mem : ∀ m ∈ fields, m.1 ∈ known
  plain : ∀ m ∈ fields, escape m.1.toList = m.1.toList
  distinct : (fields.map (·.1)).Nodup

theorem lookup_eq_none {fields : Fields} {name : String} (h : name ∉ fields.map (·.1)) :
    fields.lookup name = none := by
  rw [List.lookup_eq_none_iff]
  intro m hm
  rw [bne_iff_ne]
  exact fun he => h (List.mem_map.mpr ⟨m, hm, he.symm⟩)

theorem ofJson_ofMembers {known : List String} {fields : Fields} (h : Proper known fields) :
    ofJson known (Json.ofMembers fields) = some fields := by
  rw [Json.ofMembers, ofJson]
  induction fields with
  | nil => rfl
  | cons m fields ih =>
    obtain ⟨hm, hmem⟩ := List.forall_mem_cons.mp h.mem
    obtain ⟨hn, hplain⟩ := List.forall_mem_cons.mp h.plain
    obtain ⟨hnew, hdistinct⟩ := List.nodup_cons.mp h.distinct
    have hname : unescape m.1.toList = some m.1.toList := by
      have hback := unescape_escape m.1.toList
      rwa [hn] at hback
    rw [List.map_cons, ofMembers]
    simp only [hname, ih ⟨hmem, hplain, hdistinct⟩, String.ofList_toList, if_pos hm,
      lookup_eq_none hnew]
    rfl

theorem wellWritten_ofMembers {known : List String} {fields : Fields} (h : Proper known fields)
    (hvalues : ∀ m ∈ fields, m.2.WellWritten) : (Json.ofMembers fields).WellWritten := by
  refine .object _ (fun m hm => ?_) fun m hm => ?_
  · obtain ⟨n, hn, rfl⟩ := List.mem_map.mp hm
    intro r
    have hcut := cutString_escape n.1.toList r
    rwa [h.plain n hn] at hcut
  · obtain ⟨n, hn, rfl⟩ := List.mem_map.mp hm
    exact hvalues n hn

variable {α : Type} (read : Json → Option α) (standard : α)

theorem get_self (name : String) (v : Json) (fields : Fields) :
    get ((name, v) :: fields) name read standard = read v := by
  rw [get, List.lookup_cons_self]

theorem get_other {name other : String} (h : name ≠ other) (v : Json) (fields : Fields) :
    get ((other, v) :: fields) name read standard = get fields name read standard := by
  rw [get, List.lookup_cons, beq_eq_false_iff_ne.mpr h, get]

end Fields

open Json Fields

namespace Connection

def members (c : Connection) : Fields :=
  [("name", .ofString c.name), ("driver", .ofString c.driver.name),
    ("username", .ofString c.username), ("host", .ofString c.host),
    ("port", .ofNat c.port.toNat), ("service_name", .ofString c.service),
    ("database", .ofOptionalString c.database), ("session_init", .ofStrings c.sessionInit)]

theorem toJson_eq (c : Connection) : c.toJson = .ofMembers c.members :=
  rfl

theorem proper_members (c : Connection) : Proper fieldNames c.members := by
  have hplain : ∀ name ∈ fieldNames, escape name.toList = name.toList := by decide
  have hmem : ∀ m ∈ c.members, m.1 ∈ fieldNames := by simp [members, fieldNames]
  exact ⟨hmem, fun m hm => hplain m.1 (hmem m hm), by simp [members]⟩

theorem wellWritten_toJson (c : Connection) : c.toJson.WellWritten := by
  rw [toJson_eq]
  refine wellWritten_ofMembers c.proper_members ?_
  simp [members, wellWritten_ofString, wellWritten_ofNat, wellWritten_ofOptionalString,
    wellWritten_ofStrings]

theorem ofJson_toJson (c : Connection) : ofJson c.toJson = some c.withoutPassword := by
  have hpassword : get [] "password" string? "" = some "" := rfl
  rw [toJson_eq, ofJson, ofJson_ofMembers c.proper_members]
  simp [members, get_self, get_other, hpassword, string?_ofString, optionalString?_ofOptionalString,
    strings?_ofStrings, port?_ofNat, driver?_ofString, withoutPassword]

end Connection

namespace Config

def withoutPassword (c : Config) : Config :=
  { c with connection := c.connection.withoutPassword }

def members (c : Config) : Fields :=
  [("connection", c.connection.toJson), ("scripts_dir", .ofOptionalString c.scriptsDir),
    ("categories", .ofStrings c.categories), ("extension", .ofString c.extension)]

theorem toJson_eq (c : Config) : c.toJson = .ofMembers c.members :=
  rfl

theorem proper_members (c : Config) : Proper fieldNames c.members := by
  have hplain : ∀ name ∈ fieldNames, escape name.toList = name.toList := by decide
  have hmem : ∀ m ∈ c.members, m.1 ∈ fieldNames := by simp [members, fieldNames]
  exact ⟨hmem, fun m hm => hplain m.1 (hmem m hm), by simp [members]⟩

theorem wellWritten_toJson (c : Config) : c.toJson.WellWritten := by
  rw [toJson_eq]
  refine wellWritten_ofMembers c.proper_members ?_
  simp [members, wellWritten_ofString, wellWritten_ofOptionalString, wellWritten_ofStrings,
    Connection.wellWritten_toJson]

theorem ofJson_toJson (c : Config) : ofJson c.toJson = some c.withoutPassword := by
  rw [toJson_eq, ofJson, ofJson_ofMembers c.proper_members]
  simp [members, get_self, get_other, string?_ofString, optionalString?_ofOptionalString,
    strings?_ofStrings, Connection.ofJson_toJson, withoutPassword]

theorem ofText_text (c : Config) : ofText c.text = some c.withoutPassword := by
  rw [ofText, text, read_text c.wellWritten_toJson, Option.bind_some, ofJson_toJson]

theorem text_withoutPassword (c : Config) : c.withoutPassword.text = c.text :=
  rfl

end Config

end ScriptReplay
