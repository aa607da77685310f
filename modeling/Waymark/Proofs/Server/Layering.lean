import Waymark.CommandLine
import Waymark.Proofs.Server.History
import Waymark.Proofs.Server.Numbering
import Waymark.Proofs.Settings

/-! Where the settings of a server come from: the defaults below the file that was named on the
command line, below what requests have laid over them, the latest on top. -/

namespace Waymark

namespace Settings
variable {s : Settings} {h : Host} {config : Option Path}

/-- What sets alone whether states are shown. -/
def showing (flag : Bool) : Json := .object [("showStates", .bool flag)]

/-- What the settings file holds, if one is named. -/
def fileLayer (d : Disk) (config : Option Path) : List Json :=
  (config.bind fun p => (d.readText p).toOption.bind Json.read?).toList

theorem layered_fileLayer (hstart : CommandLine.startSettings h config = .ok s) :
    (default h.temporary).layered (fileLayer h.disk config) = s := by
  cases config with
  | none =>
    obtain rfl := Except.ok.inj hstart
    rfl
  | some p =>
    change load h p = .ok s at hstart
    unfold load at hstart
    cases htext : h.disk.readText p with
    | error fault => simp [htext] at hstart
    | ok text =>
      simp only [htext] at hstart
      cases hvalue : Json.read? text with
      | none => simp [hvalue] at hstart
      | some value =>
        simp only [hvalue] at hstart
        have hlayer : fileLayer h.disk (some p) = [value] := by
          simp [fileLayer, htext, hvalue, Except.toOption]
        rw [hlayer]
        exact laid_of_ok hstart

/-- Settings that cannot be written are never changed by a settings file. -/
theorem eq_default_of_startSettings (hstart : CommandLine.startSettings h config = .ok s)
    (htext : ¬ (default h.temporary).heapDirectory.IsText) : s = default h.temporary := by
  rw [← layered_fileLayer hstart]
  cases hlayer : fileLayer h.disk config with
  | nil => rfl
  | cons v vs =>
    have hvs : vs = [] := by
      unfold fileLayer at hlayer
      cases hvalue : config.bind fun p => (h.disk.readText p).toOption.bind Json.read? <;>
        simp_all
    rw [hvs]
    exact laid_of_fails fun hmerges => htext hmerges.1

end Settings

namespace World
variable {quiet : Host → Host → Prop} {settings : Settings} {host : Host} {w : World}
  {log : List Occurrence}

end World

end Waymark
