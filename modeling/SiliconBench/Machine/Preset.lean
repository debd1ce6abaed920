import SiliconBench.Machine.Settings

/-! # Preset — the two systems of the comparison

The PLANAR system reaches its memory over a bus; the STACKED one has its memory
on the logic die, one cycle per hop away. Both are values, so what is done to
one never shows in the other. -/

namespace SiliconBench.Machine

open Value

/-- Memory off the chip. -/
def planar : Config Value :=
  { name := .text planarName
    memory := ⟨.whole 200, .real 10.5, .real 25.6⟩
    caches := ⟨.cached 32 4 8, .cached 256 12 8, .cached 2048 35 16⟩
    vias := ⟨.bool false, .whole 0, .whole 0⟩
    thermal := ⟨.whole 25, .whole 65, .whole 0, .real 0.8, .whole 95⟩ }

/-- Memory on the logic die. -/
def stacked : Config Value :=
  { name := .text stackedName
    memory := ⟨.whole 60, .real 0.1, .whole 1024⟩
    caches := ⟨.cached 32 4 8, .cached 256 8 8, .cached 2048 20 16⟩
    vias := ⟨.bool true, .whole 1, .whole 5⟩
    thermal := ⟨.whole 25, .whole 75, .whole 15, .real 1.2, .whole 95⟩ }

/-- The presets under their keys. -/
def presets : List (String × Config Value) := [("2d", planar), ("3d", stacked)]

/-- The preset under a key, in any case. -/
def preset? (key : String) : Option (Config Value) :=
  presets.lookup (String.ofList (key.toList.map Char.toLower))

end SiliconBench.Machine
