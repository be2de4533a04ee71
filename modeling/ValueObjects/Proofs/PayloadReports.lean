import ValueObjects.Proofs.Accounting
import ValueObjects.Proofs.Payloads
import ValueObjects.Proofs.PlainReaders

namespace ValueObjects

open Emit Generation

/-- Whatever the failure is, it is not that a payload is no type. -/
def Spares (result : Except Failure α) : Prop :=
  ∀ name display, result ≠ .error (.invalidPayload name display)

theorem Spares.cratePath (scope? : Option String) (name : String) :
    Spares (CratePath.of scope? name) := by
  have named : FailsOnly (fun cause => ∃ text use, cause = .invalidIdentifier text use)
      (CratePath.of scope? name) :=
    .cratePath (fun text use => ⟨text, use, rfl⟩) scope? name
  intro other display failed
  obtain ⟨_, _, same⟩ := named _ failed
  cases same

/-- A payload of no kind of its own is classified as a whole. -/
theorem classify_of_other (other : (classify display).kind = .other) :
    classify display = ⟨.other, false, display⟩ := by
  unfold classify at other ⊢
  dsimp only at other ⊢
  split at other
  · split at other
    · rw [Classification.mk.injEq]
      exact ⟨other, rfl, rfl⟩
    · rename_i known
      exact (known other).elim
  · rw [Classification.mk.injEq]
    exact ⟨other, rfl, rfl⟩

theorem inner_of_other (other : (classify display).kind = .other) :
    (classify display).inner = display :=
  congrArg Classification.inner (classify_of_other other)

/-- The check of a wrapper reports the canonical text of its payload if that is no type. -/
theorem type?_of_reported
    (failed : Subject.of descriptor (classify descriptor.payload) =
      .error (.invalidPayload name display)) :
    display = descriptor.payload ∧ Grammar.type? display = none := by
  cases unfit_of_subject failed with
  | path unnamed => exact (Spares.cratePath _ _ name display unnamed).elim
  | payload unread => exact ⟨rfl, unread⟩
  | inner other unread =>
    rw [inner_of_other other] at unread ⊢
    exact ⟨rfl, unread⟩

/-- A reported payload is the canonical text of a wrapper's payload, and it is read as no type. -/
theorem type?_of_diagnostic (run : emit config descriptors properties = .ok output)
    (lost : .invalidPayload name display ∈ output.diagnostics) :
    (∃ descriptor ∈ descriptors, descriptor.payload = display) ∧ Grammar.type? display = none := by
  obtain ⟨unit, loss⟩ := loss_of_diagnostic run lost
  cases loss with
  | wrapper member failed =>
    obtain ⟨shown, unread⟩ := type?_of_reported failed
    exact ⟨⟨_, member, shown.symm⟩, unread⟩

namespace Discovery

/-- What the canonical text of a payload type is good for. -/
structure Readable (ty : Ty) : Prop where
  reads : Grammar.type? ty.display = some ty.canonical
  /-- The check of a wrapper of the type does not fail for its payload. -/
  checked : ∀ tree module wrapper, wrapper ∈ candidates tree → Declares tree module wrapper ty →
    Spares (Subject.of wrapper (classify wrapper.payload))
  /-- No pass reports the payload of a wrapper of the type. -/
  unreported : ∀ config tree module wrapper output, wrapper ∈ candidates tree →
    Declares tree module wrapper ty → generate config tree = .ok output →
    ∀ name, .invalidPayload name wrapper.payload ∉ output.diagnostics

/-- The canonical text of a plain type is a type again, so no wrapper of the type is lost to its
payload. -/
theorem readable_of_plain (plain : Ty.IsPlain ty) : Readable ty where
  reads := plain.type?_display
  checked tree module wrapper _ declares name display failed := by
    obtain ⟨shown, unread⟩ := type?_of_reported failed
    rw [shown, declares.payload, plain.type?_display] at unread
    cases unread
  unreported config tree module wrapper output _ declares run name lost := by
    obtain ⟨_, unread⟩ := type?_of_diagnostic run lost
    rw [declares.payload, plain.type?_display] at unread
    cases unread

/-- Parentheses around an array are left out behind an ampersand. -/
theorem readable_of_plain_array :
    Readable (.reference (some "static") false
      (.paren (.array (.path false [.plain "u8"]) [.literal "4"]))) := by
  have known : ∀ name ∈ ["static", "u8"], isWord name = true ∧ IsCrisp name.toList :=
    List.all_iff_forall_prop.mp (by decide)
  have word (name : String) (member : name ∈ ["static", "u8"]) : IsWordName name :=
    ⟨isName_of_isWord (known name member).1, (known name member).2⟩
  have octet : Ty.IsPlain (.path false [.plain "u8"]) := by
    refine .path rfl fun segment member => ?_
    obtain rfl := List.mem_singleton.mp member
    exact .step (word "u8" (by decide)) (.inr (by decide)) .none
  have four : IsNumeral "4" := ⟨by decide, by decide, by decide⟩
  refine readable_of_plain (.reference ?_ (.paren (.array octet (.numeral four))))
  intro name member
  cases member
  exact word "static" (by decide)

/-- Without its parentheses a bound by two traits is no type behind an ampersand, and a wrapper of
the type is lost. -/
theorem lost_parentheses :
    (Grammar.type? "&(dyn A + B)").isSome = true ∧
    canonicalDisplay "&(dyn A + B)" = "&dyn A+B" ∧
    (Grammar.type? "&dyn A+B").isNone = true ∧
    failuresOf (wrapperAttempts {} "W" ⟨"W", "&dyn A+B", none, false, true⟩).1 =
      [.invalidPayload "W" "&dyn A+B"] := by
  decide +kernel

end Discovery

end ValueObjects
