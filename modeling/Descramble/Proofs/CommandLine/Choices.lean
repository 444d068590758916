import Descramble.CommandLine.Arguments
import Descramble.Proofs.Script.OptionFile

namespace Descramble.CommandLine

open Json Script Script.Options

namespace Arguments

/-- What a command line chooses for an option. It can only make the policy stricter. -/
def choice? (a : Arguments) : Field → Option Choice
  | .key => a.key.map .key
  | .extraction => a.extraction.map .extraction
  | .policy => if a.strict then some (.policy .failFast) else none

theorem choice_overlay (a : Arguments) (o : Options) (f : Field) :
    (a.overlay o).choice f = (a.choice? f).getD (o.choice f) := by
  cases f with
  | key => cases given : a.key <;> simp [overlay, choice?, Options.choice, given]
  | extraction => cases given : a.extraction <;> simp [overlay, choice?, Options.choice, given]
  | policy => cases given : a.strict <;> simp [overlay, choice?, Options.choice, given]

end Arguments

/-- The options of a run. A document may give any of them in any order among members of no concern;
the others are the defaults, and the command line wins over both. A document that gives an option
twice is refused for that option. -/
theorem chosen_options :
    (∀ (o : Options) (fields : List Field) (t : Text), fields.Nodup →
      WrittenDocument (fields.map o.choice) t →
      ∃ read, ofFile (.ok (Text.utf8 t)) = .ok read ∧
        (∀ f, read.choice f = (if f ∈ fields then o else {}).choice f) ∧
        ∀ (a : Arguments) f, (a.overlay read).choice f = (a.choice? f).getD (read.choice f)) ∧
    ∀ (cs : List Choice) (t : Text), WrittenDocument cs t → ¬ (cs.map Choice.field).Nodup →
      ∃ fault f, ofFile (.ok (Text.utf8 t)) = .error (.badJson fault) ∧
        fault.cause = .duplicateField f.name ∧ List.Duplicate f (cs.map Choice.field) := by
  refine ⟨fun o fields t once written => ?_, fun cs t written twice => ofFile_twice written twice⟩
  obtain ⟨read, done, chosen⟩ := ofFile_written once written
  exact ⟨read, done, chosen, fun a f => a.choice_overlay read f⟩

theorem chosen_options_mixed :
    (∃ read, ofFile (.ok (Text.utf8 (" \x7b\"note\":-1.50e+3, ".toList ++
          "\"unknown-calls\":\"fail-fast\", \"signature-key\":\"\\ud83d\\ude00\"\x7d".toList))) =
            .ok read ∧
        (read.choice .key = .key ['😀'] ∧ read.choice .extraction = .extraction .firstBrace ∧
          read.choice .policy = .policy .failFast) ∧
        (Arguments.overlay { script := [], extraction := some .balanced } read).choice .extraction =
          .extraction .balanced) ∧
      ∃ fault, ofFile (.ok (Text.utf8
          "\x7b\"unknown-calls\":\"fail-fast\",\"unknown-calls\":\"fail-fast\"\x7d".toList)) =
        .error (.badJson fault) ∧ fault.cause = .duplicateField policyField := by
  have number : Scalar "-1.50e+3".toList :=
    .negative (.point (.digits ⟨['1'], by decide, rfl⟩ (by decide)) ⟨['5', '0'], by decide, rfl⟩
      (.signed rfl (.inl rfl) ⟨['3'], by decide, rfl⟩))
  have unknown : ∀ f : Field, "note".toList ≠ f.name := by
    intro f
    cases f <;> decide
  have note : WrittenEntry [] "\"note\":-1.50e+3".toList := .other unknown (.compact number)
  have policy : WrittenEntry [.policy .failFast] "\"unknown-calls\":\"fail-fast\"".toList :=
    .choice (.compact (written_stringText Policy.failFast.name))
  have high : ['d', '8', '3', 'd'].length = 4 := rfl
  have low : ['d', 'e', '0', '0'].length = 4 := rfl
  have escaped : Written 0 (.string ['😀']) "\"\\ud83d\\ude00\"".toList :=
    .string (.cons (.pair high (n := 0xd83d) rfl rfl low (m := 0xde00) rfl rfl) .nil)
  have key : WrittenEntry [.key ['😀']] "\"signature-key\":\"\\ud83d\\ude00\"".toList :=
    .choice (.compact escaped)
  constructor
  · have written : WrittenDocument ([Field.policy, .key].map
        (Options.choice ⟨['😀'], .balanced, .failFast⟩)) _ :=
      .document .blank .nothing (.cons .nothing note (.cons .nothing .blank policy
        (.cons .nothing .blank key (.nil .nothing))))
    obtain ⟨read, done, chosen, flags⟩ := chosen_options.1 _ _ _ (by decide) written
    exact ⟨read, done, ⟨chosen .key, chosen .extraction, chosen .policy⟩, flags _ .extraction⟩
  · have written : WrittenDocument [.policy .failFast, .policy .failFast] _ :=
      .document .nothing .nothing (.cons .nothing policy (.cons .nothing .nothing policy
        (.nil .nothing)))
    obtain ⟨fault, f, failed, cause, again⟩ := chosen_options.2 _ _ written (by decide)
    obtain rfl : f = .policy := by simpa [Choice.field] using again.mem
    exact ⟨fault, failed, cause⟩

end Descramble.CommandLine
