import ThermalPrint.Proofs.Encode.Framing
import ThermalPrint.Proofs.Markup.Letters
import ThermalPrint.Render
import ThermalPrint.Service.Form

/-
The stream for a markup text as the printer takes it.
-/

namespace ThermalPrint
namespace Render

theorem bytes_ok {config : SessionConfig} {source : PrintSource} {options : PrintOptions}
    {bytes : List UInt8} (h : Render.bytes config source options = .ok bytes) :
    ∃ job commands, buildJob config source options = .ok job ∧
      Encode.commands config job = .ok commands ∧ bytes = streamOf commands := by
  unfold Render.bytes at h
  split at h
  · cases h
  · rename_i job hjob
    split at h
    · cases h
    · rename_i stream hstream
      cases h
      obtain ⟨commands, hcommands, rfl⟩ := Outcome.map_ok hstream
      exact ⟨job, commands, hjob, hcommands, rfl⟩

theorem buildJob_characters {config : SessionConfig} {text : Text} {options : PrintOptions}
    {job : Job} (h : buildJob config (.markup text) options = .ok job) :
    ∀ d ∈ job, ∀ c ∈ d.characters, c ∈ text ∧ c ≠ '\n' := by
  unfold buildJob at h
  dsimp only at h
  split at h
  · cases h
  · split at h
    · cases h
    · rename_i hcompile
      cases h
      exact Markup.compile_characters hcompile

theorem inLine_of_accepted {text : Text} (h : Service.hasControlChars text = false) {c : CodePoint}
    (hc : c ∈ text) (hline : c ≠ '\n') : Text.InLine c := by
  have hplain : Service.isControlChar c = false := by
    cases hcontrol : Service.isControlChar c with
    | false => rfl
    | true => rw [Service.hasControlChars, List.any_eq_true.2 ⟨c, hc, hcontrol⟩] at h; cases h
  simp only [Service.isControlChar, Bool.or_eq_false_iff, Bool.and_eq_false_iff,
    decide_eq_false_iff_not, Bool.not_eq_false', Bool.or_eq_true, decide_eq_true_eq] at hplain
  obtain ⟨hlow, hdel⟩ := hplain
  rcases hlow with hlow | (hfeed | hreturn) | htab
  · exact .inr (.inr ⟨by omega, hdel⟩)
  · exact absurd hfeed hline
  · exact .inr (.inl hreturn)
  · exact .inl htab

/-- A printer takes the stream for accepted markup for the commands of its directives, in order
and to the end: what the commands carry is as long as they say, and no letter, symbol data,
barcode data or image is taken for a command. -/
theorem read_bytes {config : SessionConfig} {text : Text} {options : PrintOptions}
    {bytes : List UInt8} (hset : config.charset = "cp437") (hdots : config.dotsPerLine ≤ 524280)
    (haccepted : Service.hasControlChars text = false)
    (h : Render.bytes config (.markup text) options = .ok bytes) :
    ∃ job commands, buildJob config (.markup text) options = .ok job ∧
      Encode.commands config job = .ok commands ∧ bytes = streamOf commands ∧
      (∀ c ∈ commands, c.Framed) ∧
      Instruction.read bytes = some (commands.flatMap Command.instructions) := by
  obtain ⟨job, commands, hjob, hcommands, rfl⟩ := bytes_ok h
  have hletters : ∀ d ∈ job, ∀ c ∈ d.letters, Text.InLine c := by
    intro d hd c hc
    obtain ⟨hmem, hline⟩ := buildJob_characters hjob d hd c (List.mem_append_left _ hc)
    exact inLine_of_accepted haccepted hmem hline
  have hframed := Encode.commands_framed hset hdots hletters hcommands
  exact ⟨job, commands, hjob, hcommands, rfl, hframed, Instruction.read_stream hframed⟩

def tea : Text := "[L]<b>Tea</b>[R]2\n<qrcode>A</qrcode>".toText

theorem read_bytes_tea :
    ∃ bytes instructions, Render.bytes {} (.markup tea) {} = .ok bytes ∧ bytes.length = 93 ∧
      Instruction.read bytes = some instructions := by
  have hlength : (Render.bytes {} (.markup tea) {}).toOption.map List.length = some 93 := by
    decide +kernel
  cases hbytes : Render.bytes {} (.markup tea) {} with
  | error f =>
    rw [hbytes] at hlength
    cases hlength
  | ok bytes =>
    rw [hbytes] at hlength
    obtain ⟨job, commands, -, -, -, -, hread⟩ := read_bytes rfl (by decide) (by decide) hbytes
    exact ⟨bytes, _, rfl, Option.some.inj hlength, hread⟩

end Render
end ThermalPrint
