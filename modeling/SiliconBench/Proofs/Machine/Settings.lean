import SiliconBench.Machine.Settings
import SiliconBench.Proofs.Setting.Overlay

/-!
# Settings — what is known of a system that was built from a table

Each part of a system is built by its own reader, from its own defaults. Two facts
about every reader carry everything that is said of the whole system: what a part
writes is read back as that part, validated again (`ofValue_toValue`); and what is
accepted is written back as the defaults with the table laid over them
(`laidOver_of_ofValue`). The levels of the hierarchy differ in ONE thing: a level
that a table names starts from the defaults of a level on its own, not from those
of the level in its place (`Caches.baseFor`).
-/

namespace SiliconBench.Machine

open Value

/-! ## One level of cache -/

namespace Level

theorem ofValue_toValue (l : Level Value) :
    ofValue l.toValue = (l.validate >>= fun _ => .ok l) := by
  have hes : knownEntries "CacheLevelConfig" keys l.toValue = .ok _ :=
    knownEntries_eq_ok.mpr ⟨rfl, rfl⟩
  rw [ofValue, hes]
  rfl

theorem laidOver_of_ofValue {v : Value} {l : Level Value} (hv : v.Distinct)
    (h : ofValue v = .ok l) : LaidOver default.toValue v l.toValue ∧ l.validate = .ok () := by
  obtain ⟨es, rfl, hkeys, hvalid, rfl⟩ := checkedPart_eq_ok.mp h
  exact ⟨.leaves hv.1 hkeys rfl, hvalid⟩

theorem validate_default : default.validate = .ok () :=
  eq_ok_of_toBool (by decide +kernel)

end Level

/-! ## The caches -/

namespace Caches

theorem ofValue_toValue (c : Caches Value) :
    ofValue c.toValue = (c.validate >>= fun _ => .ok c) := by
  have hbuild : ofValue c.toValue =
      build [("l1", c.l1.toValue), ("l2", c.l2.toValue), ("l3", c.l3.toValue)] default := rfl
  simp only [hbuild, build, Level.ofValue_toValue, validate]
  cases c.l1.validate with
  | error e => rfl
  | ok =>
    cases c.l2.validate with
    | error e => rfl
    | ok => cases c.l3.validate <;> rfl

/-- What a level is before a table is laid over it. -/
def levelFor (given : Value) (key : String) (l : Level Value) : Level Value :=
  if (given.field? key).isSome then .default else l

/-- What the caches are before a table is laid over them: every level that the table
names is a level of which nothing is said. -/
def baseFor (given : Value) : Caches Value :=
  { l1 := levelFor given "l1" default.l1
    l2 := levelFor given "l2" default.l2
    l3 := levelFor given "l3" default.l3 }

theorem baseFor_null : baseFor .null = default := rfl

variable {es : List (String × Value)} {c c₀ : Caches Value}

/-- A level of the caches is what was built last under its key, or what it was. -/
theorem level_of_build {get : Caches Value → Level Value} {key : String}
    (hput : ∀ k l c, get (put k l c) = if k = key then l else get c)
    (hd : (es.map Prod.fst).Nodup) (h : build es c₀ = .ok c) :
    match es.lookup key with
    | some v => Level.ofValue v = .ok (get c)
    | none => get c = get c₀ := by
  induction es generalizing c₀ with
  | nil =>
    cases h
    rfl
  | cons e rest ih =>
    obtain ⟨k, v⟩ := e
    obtain ⟨l, hl, hrest⟩ := bind_eq_ok.mp h
    rw [List.map_cons, List.nodup_cons] at hd
    have hlevel := ih hd.2 hrest
    rw [hput] at hlevel
    -- an entry under this key is the last one, since keys are distinct
    by_cases hk : k = key
    · subst hk
      have hnone : rest.lookup k = none := by
        refine List.lookup_eq_none_iff.mpr fun e he => ?_
        have hne : e.1 ≠ k := fun heq => hd.1 (List.mem_map.mpr ⟨e, he, heq⟩)
        simpa using hne.symm
      rw [hnone, if_pos rfl] at hlevel
      rw [List.lookup_cons_self, hlevel]
      exact hl
    · rw [List.lookup_cons, beq_false_of_ne (Ne.symm hk)]
      rw [if_neg hk] at hlevel
      exact hlevel

/-- A level whose default is valid is laid over what the level was before, and is valid. -/
theorem level_laidOver (get : Caches Value → Level Value) (key : String)
    (hput : ∀ k l c, get (put k l c) = if k = key then l else get c)
    (hdefault : (get default).validate = .ok ()) (hd : (Value.table es).Distinct)
    (h : build es default = .ok c) :
    FieldLaidOver es (key, (levelFor (.table es) key (get default)).toValue)
      (key, (get c).toValue) ∧ (get c).validate = .ok () := by
  have hlevel := level_of_build hput hd.1 h
  cases hkey : es.lookup key with
  | none =>
    simp only [hkey] at hlevel
    simp [FieldLaidOver, levelFor, field?, hkey, hlevel, hdefault]
  | some v =>
    simp only [hkey] at hlevel
    obtain ⟨hlaid, hvalid⟩ := Level.laidOver_of_ofValue (distinct_of_lookup hd.2 hkey) hlevel
    simp [FieldLaidOver, levelFor, field?, hkey, hlaid, hvalid]

theorem laidOver_of_ofValue {v : Value} (hv : v.Distinct) (h : ofValue v = .ok c) :
    LaidOver (baseFor v).toValue v c.toValue ∧ c.validate = .ok () := by
  obtain ⟨es, hes, hbuild⟩ := bind_eq_ok.mp h
  obtain rfl := tableEntries_eq_ok.mp hes
  simp only at hbuild
  split at hbuild
  case isFalse => cases hbuild
  case isTrue hkeys =>
    obtain ⟨h1, v1⟩ := level_laidOver Caches.l1 "l1"
      (by intro k l c; unfold put; split <;> simp_all) rfl hv hbuild
    obtain ⟨h2, v2⟩ := level_laidOver Caches.l2 "l2"
      (by intro k l c; unfold put; split <;> simp_all) rfl hv hbuild
    obtain ⟨h3, v3⟩ := level_laidOver Caches.l3 "l3"
      (by intro k l c; unfold put; split <;> simp_all) rfl hv hbuild
    refine ⟨.table hv.1 (List.isEmpty_iff.mp hkeys) (.cons h1 (.cons h2 (.cons h3 .nil))), ?_⟩
    rw [validate, v1, v2, v3]
    rfl

end Caches

/-! ## Main memory -/

namespace Memory

theorem ofValue_toValue (m : Memory Value) :
    ofValue m.toValue = (m.validate >>= fun _ => .ok m) := by
  have hes : knownEntries "MainMemoryConfig" keys m.toValue = .ok _ :=
    knownEntries_eq_ok.mpr ⟨rfl, rfl⟩
  rw [ofValue, hes]
  rfl

theorem laidOver_of_ofValue {v : Value} {m : Memory Value} (hv : v.Distinct)
    (h : ofValue v = .ok m) : LaidOver default.toValue v m.toValue ∧ m.validate = .ok () := by
  obtain ⟨es, rfl, hkeys, hvalid, rfl⟩ := checkedPart_eq_ok.mp h
  exact ⟨.leaves hv.1 hkeys rfl, hvalid⟩

theorem validate_default : default.validate = .ok () :=
  eq_ok_of_toBool (by decide +kernel)

end Memory

/-! ## The vias -/

namespace Vias

theorem ofValue_toValue (t : Vias Value) :
    ofValue t.toValue = (t.validate >>= fun _ => .ok t) := by
  have hes : knownEntries "TSVConfig" keys t.toValue = .ok _ :=
    knownEntries_eq_ok.mpr ⟨rfl, rfl⟩
  rw [ofValue, hes]
  rfl

theorem laidOver_of_ofValue {v : Value} {t : Vias Value} (hv : v.Distinct)
    (h : ofValue v = .ok t) : LaidOver default.toValue v t.toValue ∧ t.validate = .ok () := by
  obtain ⟨es, rfl, hkeys, hvalid, rfl⟩ := checkedPart_eq_ok.mp h
  exact ⟨.leaves hv.1 hkeys rfl, hvalid⟩

theorem validate_default : default.validate = .ok () :=
  eq_ok_of_toBool (by decide +kernel)

end Vias

/-! ## The thermal path -/

namespace Thermal

theorem ofValue_toValue (t : Thermal Value) :
    ofValue t.toValue = (t.validate >>= fun _ => .ok t) := by
  have hes : knownEntries "ThermalConfig" keys t.toValue = .ok _ :=
    knownEntries_eq_ok.mpr ⟨rfl, rfl⟩
  rw [ofValue, hes]
  rfl

theorem laidOver_of_ofValue {v : Value} {t : Thermal Value} (hv : v.Distinct)
    (h : ofValue v = .ok t) : LaidOver default.toValue v t.toValue ∧ t.validate = .ok () := by
  obtain ⟨es, rfl, hkeys, hvalid, rfl⟩ := checkedPart_eq_ok.mp h
  exact ⟨.leaves hv.1 hkeys rfl, hvalid⟩

theorem validate_default : default.validate = .ok () :=
  eq_ok_of_toBool (by decide +kernel)

end Thermal

/-! ## The system -/

namespace Config

/-- The name of a system, as a text. -/
def shownName (v : Value) : Value :=
  .text v.display

/-- The system with its name shown as a text. -/
def named (c : Config Value) : Config Value :=
  { c with name := shownName c.name }

/-- What a system writes is read back as that system, validated again. -/
theorem ofValue_toValue (c : Config Value) :
    ofValue c.toValue = (c.validate >>= fun _ => .ok c.named) := by
  have hparts : ofValue c.toValue = (do
      let memory ← Memory.ofValue c.memory.toValue
      let caches ← Caches.ofValue c.caches.toValue
      let vias ← Vias.ofValue c.vias.toValue
      let thermal ← Thermal.ofValue c.thermal.toValue
      return { name := .text c.name.display, memory, caches, vias, thermal }) := rfl
  simp only [hparts, Memory.ofValue_toValue, Caches.ofValue_toValue, Vias.ofValue_toValue,
    Thermal.ofValue_toValue, validate]
  cases c.memory.validate with
  | error e => rfl
  | ok =>
    cases c.caches.validate with
    | error e => rfl
    | ok =>
      cases c.vias.validate with
      | error e => rfl
      | ok => cases c.thermal.validate <;> rfl

/-- A part of the system is laid over its default, and is valid. -/
theorem part_laidOver {β : Type} (write : β → Value) (check : β → Result Value Unit) (base : β)
    {read : Value → Result Value β} {key : String} {es : List (String × Value)} {x start : β}
    (hcheck : check start = .ok ()) (hread : ∀ v, es.lookup key = some v → read v = .ok x →
      LaidOver (write base) v (write x) ∧ check x = .ok ())
    (hbase : es.lookup key = none → base = start) (h : part es key read start = .ok x) :
    FieldLaidOver es (key, write base) (key, write x) ∧ check x = .ok () := by
  rw [part] at h
  cases hkey : es.lookup key with
  | none =>
    simp only [hkey] at h
    cases h
    simp [FieldLaidOver, hkey, hbase hkey, hcheck]
  | some v =>
    simp only [hkey] at h
    simpa [FieldLaidOver, hkey] using hread v hkey h

/-- What a system is before a table is laid over it: every level of cache that the
table names is a level of which nothing is said. -/
def baseFor (given : Value) : Config Value :=
  { default with caches := .baseFor ((given.field? "cache").getD .null) }

/-- A system that is accepted is written back as the table laid over what it was
before, but for its name, which is shown as a text. -/
theorem laidOver_of_ofValue {v : Value} {c : Config Value} (hv : v.Distinct)
    (h : ofValue v = .ok c) :
    (∃ w, LaidOver (baseFor v).toValue v w ∧ c.toValue = w.mapEntry "name" shownName) ∧
      c.validate = .ok () := by
  obtain ⟨es, hes, hparts⟩ := bind_eq_ok.mp h
  obtain ⟨rfl, hkeys⟩ := knownEntries_eq_ok.mp hes
  obtain ⟨memory, hmemory, hparts⟩ := bind_eq_ok.mp hparts
  obtain ⟨caches, hcaches, hparts⟩ := bind_eq_ok.mp hparts
  obtain ⟨vias, hvias, hparts⟩ := bind_eq_ok.mp hparts
  obtain ⟨thermal, hthermal, hparts⟩ := bind_eq_ok.mp hparts
  cases hparts
  have hentry {key : String} {w : Value} (hw : es.lookup key = some w) : w.Distinct :=
    distinct_of_lookup hv.2 hw
  obtain ⟨hm, vm⟩ := part_laidOver Memory.toValue Memory.validate .default
    Memory.validate_default (fun w hw => Memory.laidOver_of_ofValue (hentry hw))
    (fun _ => rfl) hmemory
  -- the caches alone are laid over a base of their own
  obtain ⟨hc, vc⟩ := part_laidOver Caches.toValue Caches.validate
    (.baseFor (((Value.table es).field? "cache").getD .null)) rfl
    (fun w hw hread => by simpa [field?, hw] using Caches.laidOver_of_ofValue (hentry hw) hread)
    (fun hnone => by simpa [field?, hnone] using Caches.baseFor_null) hcaches
  obtain ⟨ht, vt⟩ := part_laidOver Vias.toValue Vias.validate .default
    Vias.validate_default (fun w hw => Vias.laidOver_of_ofValue (hentry hw))
    (fun _ => rfl) hvias
  obtain ⟨hr, vr⟩ := part_laidOver Thermal.toValue Thermal.validate .default
    Thermal.validate_default (fun w hw => Thermal.laidOver_of_ofValue (hentry hw))
    (fun _ => rfl) hthermal
  refine ⟨⟨.table [("name", entryOr es "name" default.name), ("main_memory", memory.toValue),
    ("cache", caches.toValue), ("tsv", vias.toValue), ("thermal", thermal.toValue)], ?_, ?_⟩, ?_⟩
  · exact .table hv.1 hkeys (.cons (.leaf rfl) (.cons hm (.cons hc (.cons ht (.cons hr .nil)))))
  · cases hname : es.lookup "name" with
    | none => simp [toValue, mapEntry, entryOr, hname, shownName, default, display]
    | some w => simp [toValue, mapEntry, entryOr, hname, shownName]
  · simp [validate, vm, vc, vt, vr]

/-- The name of a system that was built from a table is a text. -/
theorem named_of_ofValue {v : Value} {c : Config Value} (h : ofValue v = .ok c) : c.named = c := by
  obtain ⟨es, -, hparts⟩ := bind_eq_ok.mp h
  obtain ⟨memory, -, hparts⟩ := bind_eq_ok.mp hparts
  obtain ⟨caches, -, hparts⟩ := bind_eq_ok.mp hparts
  obtain ⟨vias, -, hparts⟩ := bind_eq_ok.mp hparts
  obtain ⟨thermal, -, hparts⟩ := bind_eq_ok.mp hparts
  cases hparts
  cases hname : es.lookup "name" <;> simp [named, shownName, default, display]

end Config

end SiliconBench.Machine
