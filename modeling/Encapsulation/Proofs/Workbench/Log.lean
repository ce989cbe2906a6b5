import Encapsulation.Proofs.Access.Log
import Encapsulation.Proofs.Access.Silence
import Encapsulation.Proofs.Workbench.Moment

/-!
# The log of a bench

What a run on a bench logs about bytes: those of an object are built once at most, exactly when they
come to be remembered, and after the bytes of the header and of the payload they are put together
from. That also holds for objects of builds that failed, of which nothing is left but what was
logged.
-/
namespace Encapsulation

open Relation (ReflTransGen)

namespace Workbench

variable {bench : Workbench}

/-- The log of a bench is in order: the bytes of an object are reported once at most, with their
number and the kind of the object, and after those of its parts. -/
structure Accounts (bench : Workbench) : Prop where
  /-- The bytes of an object are reported once at most. -/
  once : ∀ object, bench.memory.builds object ≤ 1
  /-- Those that are reported are remembered, and so many. -/
  counts : ∀ index object kind count, bench.memory.Reports index object kind count →
    ∃ bytes : Bytes, bench.memory.bank.get? ⟨object, .bytes⟩ = some bytes ∧ bytes.length = count
  /-- They are reported with the kind of the object. -/
  kinds : ∀ index object kind count item, bench.memory.Reports index object kind count →
    bench.itemAt? object = some item → item.kind = kind
  /-- Those of a packet are reported after those of its header and payload, if they are put together
  from these. -/
  ordered : ∀ index kind count target, bench.Holds target →
    bench.memory.Reports index (target.packet.object target.chain) kind count →
    target.packet.Composes →
      (target.packet.header?.isSome = true →
        bench.memory.ReportsBefore index (target.packet.headerObject target.chain)) ∧
      ∀ payload : Packet, target.packet.payload? = some payload →
        bench.memory.ReportsBefore index (payload.object target.chain)

/-- The log of a bench is in order if it tells what was built by a ledger of the bench. -/
theorem Ledger.accounts {ledger : Workbench} (kept : bench.Ledger ledger)
    (logged : bench.memory.Logged ledger.itemAt?) : bench.Accounts where
  once object := Nat.le_trans (logged.once object) (Bool.toNat_le _)
  counts := logged.counted
  kinds index object kind count item reported known := by
    obtain ⟨found, listed, same⟩ := logged.booked index object kind count reported
    have own := kept.listed.itemAt? object item known
    obtain rfl : item = found := Option.some.inj (own.symm.trans listed)
    exact same
  ordered index kind count target held reported composes :=
    logged.ordered index target.chain kind count target.packet reported
      (kept.listed.holds held).booked.self composes

/-- A silent access logs nothing. -/
theorem events_after_access {α : Type} {action : Access α}
    {known : α → Memo.Bank Cell Cell.Value → Prop}
    (unfolds : Memo.Eval.Unfolds Silent action bench.memory known) :
    (bench.after (access action)).memory.events = bench.memory.events := by
  obtain ⟨memory, left, steps⟩ := steps_access unfolds
  rw [left]
  exact Silent.many steps

/-- The length and the text of a packet of the library, and those of its header, log nothing. -/
theorem Holds.silent {target : Located} (library : target.packet.Library) {view : View}
    (shown : view = .length ∨ view = .text) :
    (bench.after (read target view)).memory.events = bench.memory.events ∧
      (bench.after (readHeader target view)).memory.events = bench.memory.events := by
  constructor
  · rcases shown with rfl | rfl
    · exact events_after_access (library.length_silent bench.memory)
    · exact events_after_access (library.text_silent bench.memory)
  · unfold readHeader
    cases present : target.packet.header? with
    | none => rfl
    | some header =>
      have silent := library.header_silent (Chain.mem_walk_self _) present
        (target.packet.headerObject target.chain) bench.memory
      simp only [after_map]
      rcases shown with rfl | rfl
      · exact events_after_access silent.1
      · exact events_after_access silent.2

/-- From a store of any packets and copies of headers of which nothing is remembered, in a run of
any operations, failed ones included: the log is in order at any time. From one time of the run to a
later one, what is remembered changes from moment to moment, where the bytes of an object are
reported in the moment in which they come to be remembered, and the bytes of its parts are
remembered by then; so the bytes of every object that is not a later copy are reported once more
exactly if they were not remembered before and are afterwards. Kind queries, dumps and builders that
are given back leave the bench as it is, and the lengths and texts of packets of the library and
their headers log nothing. -/
theorem bytes_are_built_once (chains : Array (Option Packet)) (copies : Array Header)
    (history later : List Operation) :
    let bench := run ⟨.initial, chains, copies⟩ history
    let final := bench.run later
    final.Accounts ∧
      (∃ ledger, final.Ledger ledger ∧
        ReflTransGen (Moment ledger.itemAt? bench.copies.size) bench.memory final.memory) ∧
      (∀ object, (∀ serial, object = .copy serial → serial < bench.copies.size) →
        final.memory.builds object = bench.memory.builds object +
          if bench.memory.hasBytes object = false ∧ final.memory.hasBytes object = true then 1
          else 0) ∧
      (∀ operation : Operation, operation.Asks → final.after operation.perform = final) ∧
      ∀ target, final.Holds target → target.packet.Library → ∀ view ∈ [View.length, View.text],
        (final.after (read target view)).memory.events = final.memory.events ∧
          (final.after (readHeader target view)).memory.events = final.memory.events := by
  intro bench final
  have started : Sound ⟨.initial, chains, copies⟩ := sound_start chains copies
  obtain ⟨-, sound⟩ := run_leads started history
  obtain ⟨early, -, kept, first⟩ := started.moments_run (.self _) (Nat.zero_le _) history
  obtain ⟨ledger, listed, last, moments⟩ := sound.moments_run kept (Nat.le_refl _) later
  have logged : final.memory.Logged ledger.itemAt? :=
    ((Memory.Logged.initial ledger.itemAt?).many (listed.moments first)).many moments
  refine ⟨last.accounts logged, ⟨ledger, last, moments⟩, fun object settled => ?_,
    fun operation => after_of_asks final, fun target _ library view member => ?_⟩
  · have balance : final.memory.builds object + (bench.memory.hasBytes object).toNat =
        bench.memory.builds object + (final.memory.hasBytes object).toNat :=
      Moment.builds_balance_many moments settled
    have stays : bench.memory.hasBytes object = true → final.memory.hasBytes object = true :=
      Moment.isFilled_many moments
    cases had : bench.memory.hasBytes object with
    | false =>
      rw [had] at balance
      cases has : final.memory.hasBytes object <;> rw [has] at balance <;> simpa using balance
    | true =>
      rw [had, stays had] at balance
      simpa using balance
  · refine Holds.silent library ?_
    simpa using member

/-- A bench with a datagram around one byte. -/
def datagramBench : Workbench :=
  ⟨.initial, #[some (.wrap (.udp ⟨⟨1⟩, ⟨2⟩, 9, 0⟩) (.unknown [1]))], #[]⟩

/-- The bytes of the datagram, its header and its data are built when its hexadecimal form is asked
for, those of the datagram last, and are not built again when its bytes and its hash are. -/
theorem datagram_is_built_once :
    let bench := datagramBench.run [.read 0 0 .hex]
    let final := bench.run [.read 0 0 .bytes, .read 0 0 .hash]
    final.memory.Reports 2 (.packet 0 2) .udp 9 ∧
      final.memory.ReportsBefore 2 (.header 0 2) ∧ final.memory.ReportsBefore 2 (.packet 0 1) ∧
      final.memory.builds (.packet 0 2) = 1 ∧ bench.memory.builds (.packet 0 2) = 1 := by
  intro bench final
  let datagram : Located := ⟨0, .wrap (.udp ⟨⟨1⟩, ⟨2⟩, 9, 0⟩) (.unknown [1])⟩
  obtain ⟨accounts, -, once, -⟩ := bytes_are_built_once datagramBench.chains datagramBench.copies
    [.read 0 0 .hex] [.read 0 0 .bytes, .read 0 0 .hash]
  have held : final.Holds datagram := ⟨datagram.packet, rfl, Chain.mem_walk_self _⟩
  have reported : final.memory.Reports 2 (.packet 0 2) .udp 9 := rfl
  have composes : datagram.packet.Composes := ⟨.udp ⟨⟨1⟩, ⟨2⟩, 9, 0⟩, rfl, rfl⟩
  obtain ⟨header, payload⟩ := accounts.ordered 2 .udp 9 datagram held reported composes
  have first : bench.memory.builds (.packet 0 2) = 1 := rfl
  have full : bench.memory.hasBytes (.packet 0 2) = true := rfl
  have counted := once (.packet 0 2) fun serial copied => by cases copied
  rw [if_neg fun vacant => Bool.noConfusion (vacant.1.symm.trans full)] at counted
  exact ⟨reported, header rfl, payload (.unknown [1]) rfl, counted.trans first, first⟩

end Workbench

end Encapsulation
