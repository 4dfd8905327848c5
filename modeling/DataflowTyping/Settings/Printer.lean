import DataflowTyping.Settings.Reader

/-!
# Writing settings

Settings are written as the named record with one field a line, and
`Settings.ofText_text` says that this text reads back.
-/

namespace DataflowTyping

namespace Settings

def truthWord : Bool → String
  | true => "true"
  | false => "false"

def text (settings : Settings) : String :=
  recordName ++ "(\n" ++
    "    diagnostics: " ++ truthWord settings.diagnostics ++ ",\n" ++
    "    warn_on_ambiguous_join: " ++ truthWord settings.warnOnClash ++ ",\n)"

/-- The text of settings reads back. -/
theorem ofText_text (settings : Settings) : ofText settings.text = .ok settings := by
  have read : (ofText settings.text).toOption = some settings := by
    obtain ⟨diagnostics, warnOnClash⟩ := settings
    cases diagnostics <;> cases warnOnClash <;> decide +kernel
  cases result : ofText settings.text with
  | error malformed =>
      rw [result] at read
      cases read
  | ok found =>
      rw [result] at read
      cases read
      rfl

end Settings

end DataflowTyping
