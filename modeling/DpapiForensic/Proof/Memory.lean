import DpapiForensic.Lib.Checked
import DpapiForensic.Main
import DpapiForensic.Proof.Run

/-!
# Running out of memory

A record declares how many entries its map has, and the parser reserves memory for as many before it looks at
one. An allocator that refuses ends the process there; other than that, memory makes no difference. A record
whose map is all there asks for less than five times its own size.
-/

namespace DpapiForensic

open Cli Vault Outcome

variable {env : Env} {grants : Nat → Bool} {vcrd : Bytes}

/-! ### Records -/

section Records

/-- What is reserved for a record, in bytes. -/
def reservations (vcrd : Bytes) : List Nat := [16 * (mapsSize vcrd / 12), 56 * (mapsSize vcrd / 12)]

/-- The allocator grants what the record has reserved. -/
def Affords (grants : Nat → Bool) (vcrd : Bytes) : Prop :=
  ∀ size ∈ reservations vcrd, size = 0 ∨ grants size

theorem reservations_le (h : MapInside vcrd) : ∀ size ∈ reservations vcrd, size ≤ 5 * vcrd.length := by
  unfold MapInside at h
  simp only [reservations, List.forall_mem_cons]
  refine ⟨by omega, by omega, fun size hsize => absurd hsize List.not_mem_nil⟩

theorem parseVcrdAttributesWith_of_affords (hvcrd : IsSlice vcrd) (h : Affords grants vcrd) :
    parseVcrdAttributesWith (withCapacityFrom grants) env vcrd = parseVcrdAttributes env vcrd := by
  by_cases hname : nameEnd vcrd ≤ vcrd.length
  · rw [parseVcrdAttributes, parseVcrdAttributesWith_eq hvcrd hname, parseVcrdAttributesWith_eq hvcrd hname,
      withCapacityFrom_of_granted (h _ (by simp [reservations])),
      withCapacityFrom_of_granted (h _ (by simp [reservations]))]
  · exact parseVcrdAttributesWith_congr hvcrd hname

theorem below_parseVcrdAttributesWith (grants : Nat → Bool) (vcrd : Bytes) :
    Below (parseVcrdAttributesWith (withCapacityFrom grants) env vcrd) (parseVcrdAttributes env vcrd) := by
  have hreserve := @below_withCapacityFrom DpapiError grants
  refine .bind_right fun pos => .bind_right fun (nameLen, pos) => .bind_right fun pos => ?_
  refine .bind_right fun (mapsSize, pos) => .bind_right fun mapsEnd => .bind_right fun _ => ?_
  refine (hreserve _).bind fun _ _ => .bind_right fun (offsets, pos) => .bind_right fun _ => ?_
  exact (hreserve _).bind fun _ _ => .refl _

/-- Nothing but a refused reservation ends the parser early. -/
theorem parseVcrdAttributesWith_eq_panic_iff (hvcrd : IsSlice vcrd) :
    parseVcrdAttributesWith (withCapacityFrom grants) env vcrd = .panic ↔
      nameEnd vcrd ≤ vcrd.length ∧ mapsSize vcrd % 12 = 0 ∧ ¬Affords grants vcrd := by
  have hnever := @parseVcrdAttributes_ne_panic env vcrd hvcrd
  constructor
  · intro h
    have hrefused : ¬Affords grants vcrd := fun hafford =>
      hnever ((parseVcrdAttributesWith_of_affords hvcrd hafford).symm.trans h)
    by_cases hname : nameEnd vcrd ≤ vcrd.length
    · by_cases hmod : mapsSize vcrd % 12 = 0
      · exact ⟨hname, hmod, hrefused⟩
      · rw [parseVcrdAttributesWith_eq hvcrd hname, failIf_of hmod] at h
        cases h
    · exact absurd ((parseVcrdAttributesWith_congr hvcrd hname).symm.trans h) hnever
  · rintro ⟨hname, hmod, hrefused⟩
    have hlt : mapsSize vcrd < 2 ^ 32 := UInt32.toNat_lt _
    rw [parseVcrdAttributesWith_eq hvcrd hname, failIf_of_not (not_not.mpr hmod), ok_bind]
    by_cases hmap : 16 * (mapsSize vcrd / 12) = 0 ∨ grants (16 * (mapsSize vcrd / 12))
    · have hattrs : ¬(56 * (mapsSize vcrd / 12) = 0 ∨ grants (56 * (mapsSize vcrd / 12))) := by
        intro hattrs
        apply hrefused
        simp only [Affords, reservations, List.forall_mem_cons]
        exact ⟨hmap, hattrs, fun size hsize => absurd hsize List.not_mem_nil⟩
      rw [withCapacityFrom_of_granted hmap, withCapacity_of_lt (by omega), ok_bind,
        withCapacityFrom_of_refused hattrs, panic_bind]
    · rw [withCapacityFrom_of_refused hmap, panic_bind]

/-- 44 bytes that declare a map of four gigabytes, on a machine that grants one. -/
example : parseVcrdAttributesWith (withCapacityFrom (· ≤ 2 ^ 30)) env
    (List.replicate 40 0 ++ [0xfc, 0xff, 0xff, 0xff]) = .panic := by
  refine (parseVcrdAttributesWith_eq_panic_iff (by simp [IsSlice])).mpr ⟨by decide, by decide, ?_⟩
  simp only [Affords]
  decide

end Records

/-! ### Runs -/

section Runs

variable {fs : FileSystem}

/-- The allocator grants what is reserved for the record that a vault command reads. -/
def AffordsRecord (grants : Nat → Bool) (fs : FileSystem) : Command → Prop
  | .vault _ vcrd _ => ∀ bytes, fs.readBytes vcrd = .ok bytes → Affords grants bytes
  | _ => True

theorem runWith_of_affords (hfs : fs.ReturnsSlices) {command : Command}
    (h : AffordsRecord grants fs command) :
    runWith (withCapacityFrom grants) env fs command = run env fs command := by
  cases command with
  | vault vpol vcrd masterKeyHex =>
      apply bind_congr_of_ok _ fun _ _ => rfl
      refine bind_congr fun mk => bind_congr fun vpolBytes => ?_
      apply bind_congr_of_ok rfl
      intro vcrdBytes hvcrd
      have hread := orIo_eq_ok_iff.mp hvcrd
      have hparse := @parseVcrdAttributesWith_of_affords env grants vcrdBytes (hfs.bytes hread)
        (h vcrdBytes hread)
      rw [decodeVaultWith, hparse]
      rfl
  | _ => rfl

theorem below_runWith (env : Env) (grants : Nat → Bool) (fs : FileSystem) (command : Command) :
    Below (runWith (withCapacityFrom grants) env fs command) (run env fs command) := by
  cases command with
  | vault vpol vcrd masterKeyHex =>
      refine .bind ?_ fun results _ => .refl _
      refine .bind_right fun mk => .bind_right fun vpolBytes => .bind_right fun vcrdBytes => ?_
      refine .bind_right fun blob => .bind_right fun keys => ?_
      exact (below_parseVcrdAttributesWith grants vcrdBytes).mapErr.bind fun attrs _ => .refl _
  | _ => exact .refl _

end Runs

end DpapiForensic
