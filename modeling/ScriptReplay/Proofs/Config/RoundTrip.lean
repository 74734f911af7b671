import Mathlib
import ScriptReplay.Config.Store
import ScriptReplay.Proofs.Config.Document
import ScriptReplay.Proofs.Text.Utf8
import ScriptReplay.Proofs.Tree.Writing

namespace ScriptReplay.Config

theorem save_of_takes {t : Tree} {path : String} (h : t.Takes (Path.ofString path)) (c : Config) :
    ∃ after, c.save t path = .ok after ∧
      after.read (Path.ofString path) = .ok (.bytes (Utf8.encode c.text)) := by
  obtain ⟨below, hparent, hplace⟩ := h
  obtain ⟨after, hwrite, hread⟩ := Tree.write_of_hasPlace hplace (.bytes (Utf8.encode c.text))
  exact ⟨after, by simp only [save, hparent, hwrite], hread⟩

theorem save_of_not_takes {t : Tree} {path : String} (h : ¬ t.Takes (Path.ofString path)) :
    ∃ e, ∀ c : Config, c.save t path = .error e := by
  cases hparent : t.makeParent (Path.ofString path) with
  | error e => exact ⟨.file e, fun c => by simp only [save, hparent]⟩
  | ok below =>
    obtain ⟨e, he⟩ := Tree.write_of_not_hasPlace fun hplace => h ⟨below, hparent, hplace⟩
    exact ⟨.file e, fun c => by simp only [save, hparent, he]⟩

theorem load_of_read {t : Tree} {path : String} {c : Config}
    (h : t.read (Path.ofString path) = .ok (.bytes (Utf8.encode c.text))) :
    (load t path).result = .ok c.withoutPassword := by
  have htext : t.readText (Path.ofString path) = .ok c.text := by
    rw [Tree.readText, h]
    simp only [Content.text?, Utf8.decode?_encode]
  simp only [load, htext, ofText_text]

theorem text_congr {c c' : Config} (h : c.withoutPassword = c'.withoutPassword) :
    c.text = c'.text := by
  rw [← text_withoutPassword c, h, text_withoutPassword]

theorem save_load (t : Tree) (path : String) :
    (t.Takes (Path.ofString path) → ∀ c : Config, ∃ after, c.save t path = .ok after ∧
        after.read (Path.ofString path) = .ok (.bytes (Utf8.encode c.text)) ∧
        (load after path).result = .ok c.withoutPassword) ∧
      (¬ t.Takes (Path.ofString path) → ∃ e, ∀ c : Config, c.save t path = .error e) ∧
      ∀ c c' : Config, c.withoutPassword = c'.withoutPassword →
        Utf8.encode c.text = Utf8.encode c'.text ∧ c.save t path = c'.save t path := by
  refine ⟨fun htakes c => ?_, save_of_not_takes, fun c c' h => ?_⟩
  · obtain ⟨after, hafter, hread⟩ := save_of_takes htakes c
    exact ⟨after, hafter, hread, load_of_read hread⟩
  · have htext := text_congr h
    exact ⟨by rw [htext], by rw [save, htext, save]⟩

def awkward : Config where
  connection := {
    name := "\"\\/\x00\x1F\x7F"
    driver := .sqlite
    username := "\u00E9\n\r\t\x08\x0C"
    password := "secret\""
    host := ""
    port := 65535
    service := "\\u0041"
    database := some "d\\b\u20AC"
    sessionInit := ["", "𝄞"] }
  scriptsDir := some "\""
  categories := []
  extension := "null"

theorem save_load_awkward :
    Tree.empty.Takes (Path.ofString "d/c") ∧
      ∃ after, awkward.save .empty "d/c" = .ok after ∧
        (load after "d/c").result =
          .ok { awkward with connection := { awkward.connection with password := "" } } ∧
        awkward.withoutPassword.save .empty "d/c" = .ok after := by
  have htakes : Tree.empty.Takes (Path.ofString "d/c") := by
    have hparent : Tree.empty.makeParent (Path.ofString "d/c") =
        .ok (Tree.empty.put [[0x64]] .directory) := by cbv
    have hplace : (Tree.empty.put [[0x64]] .directory).resolve .place (Path.ofString "d/c") =
        .ok (.vacant [[0x64], [0x63]]) := by cbv
    exact ⟨_, hparent, _, .inl hplace⟩
  obtain ⟨hsaved, -, hsame⟩ := save_load .empty "d/c"
  obtain ⟨after, hafter, -, hload⟩ := hsaved htakes awkward
  have hpassword := (hsame awkward.withoutPassword awkward rfl).2
  exact ⟨htakes, after, hafter, hload, hpassword.trans hafter⟩

end ScriptReplay.Config
