import Encapsulation.Field.Number
import Encapsulation.Proofs.Bytes.Number

/-!
# Fields spell their numbers

The bytes of an address and of an organisation identifier spell its number, and the codes of types,
access points and control fields are the numbers assigned to them.
-/
namespace Encapsulation

/-- The bytes of a hardware address spell its number. -/
@[simp]
theorem MacAddress.number_bytes (address : MacAddress) :
    Bytes.number address.bytes = address.number := by
  obtain ⟨⟨⟨octets⟩, six⟩⟩ := address
  match octets, six with
  | [first, second, third, fourth, fifth, sixth], _ =>
    simp only [Bytes.number, bytes, number, Vector.toList_mk, Vector.getElem_mk,
      List.getElem_toArray, List.getElem_cons_zero, List.getElem_cons_succ, List.foldl_cons,
      List.foldl_nil]
    omega

/-- The bytes of an organisation identifier spell its number. -/
@[simp]
theorem Oui.number_bytes (oui : Oui) : Bytes.number oui.bytes = oui.number := by
  obtain ⟨⟨⟨octets⟩, three⟩⟩ := oui
  match octets, three with
  | [first, second, third], _ =>
    simp only [Bytes.number, bytes, number, Vector.toList_mk, Vector.getElem_mk,
      List.getElem_toArray, List.getElem_cons_zero, List.getElem_cons_succ, List.foldl_cons,
      List.foldl_nil]
    omega

/-- The code of an Ethernet type is its number. -/
@[simp]
theorem EtherType.toNat_code (etherType : EtherType) : etherType.code.toNat = etherType.number := by
  cases etherType <;> rfl

/-- The code of a service access point is its number. -/
@[simp]
theorem AccessPoint.toNat_code (point : AccessPoint) : point.code.toNat = point.number := by
  cases point <;> rfl

/-- The number of a service access point in one byte is its code. -/
theorem AccessPoint.ofNat_number (point : AccessPoint) : UInt8.ofNat point.number = point.code := by
  rw [← point.toNat_code, UInt8.ofNat_toNat]

/-- The code of a control field is its number. -/
@[simp]
theorem Control.toNat_code (control : Control) : control.code.toNat = control.number := by
  cases control <;> rfl

/-- The number of a control field in one byte is its code. -/
theorem Control.ofNat_number (control : Control) : UInt8.ofNat control.number = control.code := by
  rw [← control.toNat_code, UInt8.ofNat_toNat]

end Encapsulation
