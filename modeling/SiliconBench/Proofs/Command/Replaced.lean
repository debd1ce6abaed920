import SiliconBench.Proofs.Command.Graphics
import SiliconBench.Proofs.Command.Processor
import SiliconBench.Proofs.Command.Taken
import SiliconBench.Proofs.Setting.Revalidated

/-!
# Replaced — options that replace figures of the settings

Settings come from a file or from a preset, and some options replace a figure of them.
What comes of it is ALL OR NOTHING. Where the settings can be had and what they are with
the figures of the options is valid, that is the answer: every figure that was given, zero
or not, in its own field, and every other field as it was. In any other case there is no
answer, but the trouble of reading the settings or the refusal of validating them
(`options_replace_figures`).
-/

namespace SiliconBench.Command

open Script

/-! ## Figures -/

/-- What a text stands for where a whole number belongs. -/
def wholeNumeral (s : String) : Option Value :=
  (Decimal.readWhole? s).map .whole

/-- What a text stands for where a double belongs. -/
def realNumeral (s : String) : Option Value :=
  (Decimal.readReal? s).map .real

/-- A field holds what an option was given, or what it held before where the option was
not given. -/
def Given.Sets (g : Given) (key : String) (numeral : String → Option Value)
    (before after : Value) : Prop :=
  match g.last? key with
  | some text => numeral text = some after
  | none => after = before

/-- An option that takes what can be read sets what is read, so nothing that was given is
dropped. -/
theorem Given.sets_read {opts : List Opt} {args : List String} {g : Given} {o : Opt} {δ : Type}
    {read : String → Option δ} {value : δ → Value} (hkeys : (opts.map Opt.key).Nodup)
    (h : parse opts args = .accepted g) (ho : o ∈ opts)
    (haccepts : ∀ s, o.accepts s = (read s).isSome) (before : Value) :
    g.Sets o.key (fun s => (read s).map value) before
      ((((g.last? o.key).bind read).map value).getD before) := by
  rw [Sets]
  cases hlast : g.last? o.key with
  | none => rfl
  | some text =>
    have htaken := accepts_of_last? hkeys h ho hlast
    rw [haccepts] at htaken
    obtain ⟨x, hx⟩ := Option.isSome_iff_exists.mp htaken
    simp [hx]

/-! ## Replacing -/

/-- How settings end whose figures are replaced: with the trouble of those before, or with
the fault of those after, or as those after. -/
def Replaces {β γ : Type} (changed : β → β → Prop) (check : β → Result Value γ)
    (base got : Except Trouble β) : Prop :=
  match base with
  | .error trouble => got = .error trouble
  | .ok before => ∃ after, changed before after ∧
      got = match check after with
        | .ok _ => .ok after
        | .error fault => .error (.fault fault)

/-- An answer is what the settings are with ALL figures replaced, and is valid. -/
theorem Replaces.of_ok {β γ : Type} {changed : β → β → Prop} {check : β → Result Value γ}
    {base : Except Trouble β} {after : β} (h : Replaces changed check base (.ok after)) :
    ∃ before, base = .ok before ∧ changed before after ∧ ∃ c, check after = .ok c := by
  cases base with
  | error trouble => cases h
  | ok before =>
    obtain ⟨after', hchanged, hgot⟩ := h
    cases hcheck : check after' with
    | error fault =>
      rw [hcheck] at hgot
      cases hgot
    | ok c =>
      rw [hcheck] at hgot
      cases hgot
      exact ⟨before, rfl, hchanged, c, hcheck⟩

/-- Settings that are loaded quietly and replaced by a computation end so if every single
replacement does. -/
theorem Script.Quiet.replaces {β γ : Type} {Q : β → Prop} {load : Script β}
    {put : β → Result Value β} {changed : β → β → Prop} {check : β → Result Value γ}
    (hload : Quiet Q load)
    (hput : ∀ before, Q before → ∃ after, changed before after ∧
      put before = (check after).map fun _ => after) :
    ∃ base got, ComesTo load base ∧ ComesTo (do Script.lift (put (← load))) got ∧
      Replaces changed check base got := by
  obtain ⟨base, hbase, hQ⟩ := hload
  cases base with
  | error trouble => exact ⟨_, _, hbase, hbase.bind_trouble, rfl⟩
  | ok before =>
    obtain ⟨after, hchanged, hafter⟩ := hput before (hQ before rfl)
    refine ⟨_, _, hbase, hbase.bind (.lift _), after, hchanged, ?_⟩
    rw [hafter]
    cases check after <;> rfl

/-! ## A graphics processor -/

namespace Graphics

open SiliconBench.Gpu Value

/-- The processor whose figures the options replace. -/
def baseProcessor (g : Given) (files : Files) : Script (Config Value) :=
  match g.present? "config" with
  | some path => do lift (Config.ofValue (← readJson files path))
  | none => pure Config.preset

theorem loadProcessor_eq (g : Given) (files : Files) :
    loadProcessor g files = (do lift (withFigures g (← baseProcessor g files))) := by
  rw [loadProcessor, baseProcessor]
  cases g.present? "config" with
  | none => rfl
  | some path => simp

/-- A processor before and after the options replace figures of it. -/
structure Changed (g : Given) (before after : Config Value) : Prop where
  cores : g.Sets "cores" wholeNumeral before.cores after.cores
  clock : g.Sets "clock" realNumeral before.clock after.clock
  bandwidth : g.Sets "bandwidth" realNumeral before.bandwidth after.bandwidth
  intensity : g.Sets "intensity" realNumeral before.intensity after.intensity
  maxPower : g.Sets "max-power" realNumeral before.maxPower after.maxPower
  throttleTemp : g.Sets "throttle-temp" realNumeral before.throttleTemp after.throttleTemp
  ambient : g.Sets "ambient" realNumeral before.ambient after.ambient
  cacheSize : after.cacheSize = before.cacheSize
  cacheLatency : after.cacheLatency = before.cacheLatency
  cacheWays : after.cacheWays = before.cacheWays
  junctionToCase : after.junctionToCase = before.junctionToCase
  caseToAmbient : after.caseToAmbient = before.caseToAmbient
  capacitance : after.capacitance = before.capacitance

/-- A processor is settled before anything is replaced: validation answers it as it is. -/
theorem baseProcessor_quiet (g : Given) (files : Files) :
    Quiet (fun c => c.validate = .ok c) (baseProcessor g files) := by
  rw [baseProcessor]
  split
  · refine .bind (.readJson files _) fun v _ => .lift fun c hc => ?_
    obtain ⟨es, -, hvalidate⟩ := bind_eq_ok.mp hc
    exact (Config.settled_of_validate hvalidate).2.2
  · exact .pure rfl

/-- Figures read from the arguments leave the other fields alone. -/
theorem lookup_figures_of_notMem {fields : List (String × String)} {read : String → Option Float}
    {field : String} (h : field ∉ fields.map Prod.snd) :
    (fields.filterMap fun (key, field) => (read key).map fun x => (field, Value.real x)).lookup
      field = none := by
  refine List.lookup_eq_none_iff.mpr fun e he => ?_
  have hne : field ≠ e.1 := fun heq => h (heq ▸ mem_figures he)
  simpa using hne

/-- What is read from an argument is found under its field. -/
theorem lookup_figures {fields : List (String × String)} {read : String → Option Float}
    (hfields : (fields.map Prod.snd).Nodup) {key field : String} (h : (key, field) ∈ fields) :
    (fields.filterMap fun (key, field) => (read key).map fun x => (field, Value.real x)).lookup
      field = (read key).map .real := by
  induction fields with
  | nil => cases h
  | cons e rest ih =>
    obtain ⟨k, f⟩ := e
    rw [List.map_cons, List.nodup_cons] at hfields
    rcases List.mem_cons.mp h with heq | hrest
    · cases heq
      cases hread : read key with
      | none => simpa [hread] using lookup_figures_of_notMem hfields.1
      | some x => simp [hread]
    · have hne : field ≠ f := by
        rintro rfl
        exact hfields.1 (List.mem_map.mpr ⟨_, hrest, rfl⟩)
      cases hread : read k with
      | none => simpa [hread] using ih hfields.2 hrest
      | some x => simpa [hread, List.lookup_cons, beq_false_of_ne hne] using ih hfields.2 hrest

section Fields

variable {key field : String} (g : Given) (before : Value)

theorem entryOr_figure (h : (key, field) ∈ figures) :
    entryOr (replaced g) field before = ((g.real? key).map .real).getD before := by
  have hcores : (((g.whole? "cores").map fun n => ("cores", Value.whole n)).toList).lookup field =
      none := by
    refine List.lookup_eq_none_iff.mpr fun e he => ?_
    obtain ⟨n, -, rfl⟩ := Option.map_eq_some_iff.mp (Option.mem_toList.mp he)
    have hne : ∀ e ∈ figures, e.2 ≠ "cores" := by decide
    simpa using hne _ h
  rw [entryOr, replaced, List.lookup_append, hcores, Option.none_or,
    lookup_figures (by decide) h]

theorem entryOr_cores :
    entryOr (replaced g) "cores" before = ((g.whole? "cores").map .whole).getD before := by
  rw [entryOr, replaced, List.lookup_append, lookup_figures_of_notMem (by decide), Option.or_none]
  cases g.whole? "cores" <;> rfl

theorem entryOr_other (hfigures : field ∉ figures.map Prod.snd) (hcores : field ≠ "cores") :
    entryOr (replaced g) field before = before := by
  have hnone : (replaced g).lookup field = none := by
    rw [replaced, List.lookup_append, lookup_figures_of_notMem hfigures, Option.or_none]
    cases g.whole? "cores" with
    | none => rfl
    | some n => simp [hcores]
  rw [entryOr, hnone, Option.getD_none]

end Fields

/-- The options of accepted arguments replace the figures that they stand for, and nothing else. -/
theorem changed_overlay {args : List String} {g : Given} (h : parse options args = .accepted g)
    (before : Config Value) : Changed g before (Config.overlay (replaced g) before) := by
  have hkeys : (options.map Opt.key).Nodup := by decide
  have hreal {key field : String} (spellings : List String) (hfigure : (key, field) ∈ figures)
      (ho : Opt.real key spellings ∈ options) (v : Value) :
      g.Sets key realNumeral v (entryOr (replaced g) field v) := by
    rw [entryOr_figure g v hfigure]
    exact Given.sets_read hkeys h ho (fun _ => rfl) v
  have hcores : g.Sets "cores" wholeNumeral before.cores (entryOr (replaced g) "cores" before.cores) := by
    rw [entryOr_cores]
    exact Given.sets_read (o := .whole "cores" ["--cores"]) hkeys h (by simp [options])
      (fun _ => rfl) _
  exact {
    cores := hcores
    clock := hreal ["--clock"] (by decide) (by simp [options]) _
    bandwidth := hreal ["--bandwidth"] (by decide) (by simp [options]) _
    intensity := hreal ["--intensity"] (by decide) (by simp [options]) _
    maxPower := hreal ["--max-power"] (by decide) (by simp [options]) _
    throttleTemp := hreal ["--throttle-temp"] (by decide) (by simp [options]) _
    ambient := hreal ["--ambient", "-a"] (by decide) (by simp [options]) _
    cacheSize := entryOr_other g _ (by decide) (by decide)
    cacheLatency := entryOr_other g _ (by decide) (by decide)
    cacheWays := entryOr_other g _ (by decide) (by decide)
    junctionToCase := entryOr_other g _ (by decide) (by decide)
    caseToAmbient := entryOr_other g _ (by decide) (by decide)
    capacitance := entryOr_other g _ (by decide) (by decide) }

/-- A number of cores that is whole already is not rewritten. -/
theorem eq_of_validate {c c' : Config Value} {n : Int} (h : c.validate = .ok c')
    (hcores : c.cores = .whole n) : c' = c := by
  obtain ⟨⟨m, hm, rfl⟩, -⟩ := Config.of_validate h
  rw [hcores] at hm
  cases hm
  rw [← hcores]

/-- What a settled processor comes to is validated as a whole, and is what it was validated as. -/
theorem withFigures_eq (g : Given) {before : Config Value} (settled : before.validate = .ok before) :
    withFigures g before = (Config.overlay (replaced g) before).validate.map
      fun _ => Config.overlay (replaced g) before := by
  have hvalidate : withFigures g before = (Config.overlay (replaced g) before).validate := by
    simp only [withFigures]
    split
    case isTrue hnone =>
      rw [List.isEmpty_iff.mp hnone]
      exact settled.symm
    case isFalse => rw [Config.override, unknownKeys_replaced]
  rw [hvalidate]
  cases hafter : (Config.overlay (replaced g) before).validate with
  | error fault => rfl
  | ok c =>
    -- the number of cores is whole, whether it was given or settled before
    have hwhole : ∃ n, (Config.overlay (replaced g) before).cores = .whole n := by
      obtain ⟨n, -, hn⟩ := (Config.of_validate settled).2.cores
      show ∃ n, entryOr (replaced g) "cores" before.cores = .whole n
      rw [entryOr_cores, hn]
      cases g.whole? "cores" with
      | none => exact ⟨n, rfl⟩
      | some m => exact ⟨m, rfl⟩
    obtain ⟨n, hn⟩ := hwhole
    rw [eq_of_validate hafter hn]
    rfl

end Graphics

/-! ## The systems of a comparison -/

namespace Processor

open SiliconBench.Machine Value

/-- The options that name a system, and the system where they do not. -/
def sides : List (String × Config Value) :=
  [("planar", planar), ("stacked", stacked)]

/-- A system before and after the options replace temperatures of it. -/
structure Changed (g : Given) (before after : Config Value) : Prop where
  ambient : g.Sets "ambient" realNumeral before.thermal.ambient after.thermal.ambient
  limit : g.Sets "limit" realNumeral before.thermal.limit after.thermal.limit
  logicPower : after.thermal.logicPower = before.thermal.logicPower
  memoryPower : after.thermal.memoryPower = before.thermal.memoryPower
  resistance : after.thermal.resistance = before.thermal.resistance
  name : after.name = before.name
  memory : after.memory = before.memory
  caches : after.caches = before.caches
  vias : after.vias = before.vias

/-- A system is valid before anything is replaced. -/
theorem loadSystem_quiet (g : Given) (files : Files) {side : String × Config Value}
    (h : side ∈ sides) : Quiet (fun c => c.validate = .ok ()) (loadSystem g files side.1 side.2) := by
  rw [loadSystem]
  split
  · refine .bind (.readJson files _) fun v hv => ?_
    split
    case h_1 entries =>
      refine .lift fun c hc => (Config.laidOver_of_ofValue ?_ hc).2
      split
      case isTrue => exact hv
      case isFalse hname =>
        rw [← putEntry_of_lookup (Option.not_isSome_iff_eq_none.mp hname)]
        exact distinct_putEntry _ trivial hv
    case h_2 => exact .throw _
  · refine .pure ?_
    have hpresets : ∀ side ∈ sides, side.2.validate.toBool = true := by decide +kernel
    exact eq_ok_of_toBool (hpresets side h)

/-- A system with the temperatures of the arguments. -/
def warmed (g : Given) (c : Config Value) : Config Value :=
  { c with thermal := { c.thermal with
      ambient := ((g.real? "ambient").map .real).getD c.thermal.ambient
      limit := ((g.real? "limit").map .real).getD c.thermal.limit } }

theorem changed_warmed {args : List String} {g : Given} (h : parse options args = .accepted g)
    (before : Config Value) : Changed g before (warmed g before) where
  ambient := Given.sets_read (o := .real "ambient" ["--ambient", "-a"]) (by decide) h
    (by simp [options]) (fun _ => rfl) _
  limit := Given.sets_read (o := .real "limit" ["--tdp-limit"]) (by decide) h
    (by simp [options]) (fun _ => rfl) _
  logicPower := rfl
  memoryPower := rfl
  resistance := rfl
  name := rfl
  memory := rfl
  caches := rfl
  vias := rfl

/-- No temperature is refused: a valid system stays valid. -/
theorem validate_warmed (g : Given) {c : Config Value} (h : c.validate = .ok ()) :
    (warmed g c).validate = .ok () :=
  h

theorem withTemperatures_eq (g : Given) {c : Config Value} (h : c.validate = .ok ()) :
    withTemperatures g c = .ok (warmed g c) := by
  obtain ⟨_, -, h⟩ := bind_eq_ok.mp h
  obtain ⟨_, -, h⟩ := bind_eq_ok.mp h
  obtain ⟨_, -, hthermal⟩ := bind_eq_ok.mp h
  -- what validation looks at is not what the arguments replace
  have hafter : (warmed g c).thermal.validate = .ok () := hthermal
  simp only [withTemperatures]
  split
  · exact congrArg (· >>= fun _ => .ok (warmed g c)) hafter
  · rfl

end Processor

/-- **Options replace the figures that they stand for, all of them or none.** Whatever the
arguments and the files are: a processor or system that cannot be had is the trouble that it
is. Else there is the same one with every figure that was given in its own field, and with
every other field as it was; and that is what comes of it if it is valid, and its fault if it
is not. -/
theorem options_replace_figures (args : List String) (files : Files) :
    (∀ g, parse Graphics.options args = .accepted g →
      ∃ base got, ComesTo (Graphics.baseProcessor g files) base ∧
        ComesTo (Graphics.loadProcessor g files) got ∧
        Replaces (Graphics.Changed g) Gpu.Config.validate base got) ∧
    ∀ g, parse Processor.options args = .accepted g →
      ∀ side ∈ Processor.sides, ∃ base got,
        ComesTo (Processor.loadSystem g files side.1 side.2) base ∧
        ComesTo (do lift (Processor.withTemperatures g
          (← Processor.loadSystem g files side.1 side.2))) got ∧
        Replaces (Processor.Changed g) Machine.Config.validate base got := by
  constructor
  · intro g h
    rw [Graphics.loadProcessor_eq]
    exact (Graphics.baseProcessor_quiet g files).replaces fun before settled =>
      ⟨_, Graphics.changed_overlay h before, Graphics.withFigures_eq g settled⟩
  · intro g h side hside
    refine (Processor.loadSystem_quiet g files hside).replaces fun before valid =>
      ⟨_, Processor.changed_warmed h before, ?_⟩
    rw [Processor.withTemperatures_eq g valid, Processor.validate_warmed g valid]
    rfl

/-- A settings file of a graphics processor. -/
def fourCores : Files :=
  [("g.json", "\x7b\"cores\": 4, \"max_power_w\": 90\x7d")]

/-- What is given for that processor: a figure of the file, zero, and less than zero. -/
def coldGiven : Given :=
  [("config", "g.json"), ("cores", "16"), ("intensity", "0"), ("ambient", "-5")]

/-- The four cores of the file become sixteen, without anything to do and below zero; and a
planar system is put at zero degrees and keeps its caches. -/
theorem options_replace_figures_coldGiven :
    parse Graphics.options ["--config", "g.json", "--cores", "16", "--intensity=0", "-a", "-5"] =
        .accepted coldGiven ∧
      parse Processor.options ["--ambient", "0"] = .accepted [("ambient", "0")] ∧
      (∃ after, ComesTo (Graphics.loadProcessor coldGiven fourCores) (.ok after) ∧
        after.cores = .whole 16 ∧ after.intensity = .real 0.0 ∧ after.ambient = .real (-5.0)) ∧
      ∃ after, ComesTo (do lift (Processor.withTemperatures [("ambient", "0")]
          (← Processor.loadSystem [("ambient", "0")] [] "planar" Machine.planar))) (.ok after) ∧
        after.thermal.ambient = .real 0.0 ∧ after.caches = Machine.planar.caches := by
  have hgraphics : parse Graphics.options
      ["--config", "g.json", "--cores", "16", "--intensity=0", "-a", "-5"] = .accepted coldGiven :=
    eq_accepted (by decide +kernel)
  have hprocessor : parse Processor.options ["--ambient", "0"] = .accepted [("ambient", "0")] :=
    eq_accepted (by decide +kernel)
  refine ⟨hgraphics, hprocessor, ?_, ?_⟩
  · obtain ⟨base, got, -, hgot, hreplaces⟩ :=
      (options_replace_figures _ fourCores).1 _ hgraphics
    obtain ⟨after, rfl⟩ := hgot.exists_ok (by decide +kernel)
    obtain ⟨before, -, hchanged, -⟩ := hreplaces.of_ok
    exact ⟨after, hgot, (Option.some.inj hchanged.cores).symm,
      (Option.some.inj hchanged.intensity).symm, (Option.some.inj hchanged.ambient).symm⟩
  · obtain ⟨base, got, hbase, hgot, hreplaces⟩ :=
      (options_replace_figures _ []).2 _ hprocessor ("planar", Machine.planar) List.mem_cons_self
    obtain ⟨after, rfl⟩ := hgot.exists_ok (by decide +kernel)
    obtain ⟨before, rfl, hchanged, -⟩ := hreplaces.of_ok
    have hbefore : before = Machine.planar :=
      Except.ok.inj (Prod.mk.inj (hbase.run ⟨false, []⟩)).1.symm
    exact ⟨after, hgot, (Option.some.inj hchanged.ambient).symm, hbefore ▸ hchanged.caches⟩

end SiliconBench.Command
