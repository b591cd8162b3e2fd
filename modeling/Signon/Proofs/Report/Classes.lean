import Mathlib
import Signon.Failure

/-!
The class of a failure and the class of the report it becomes when handed on. The two agree
except on a refused status other than 503 and on an unbuildable request (`Failure.ClassedApart`).
-/

namespace Signon

namespace ErrorClass

theorem ofStatus_status (c : ErrorClass) : ofStatus c.status = c := by
  cases c <;> rfl

theorem status_injective : Function.Injective status :=
  Function.LeftInverse.injective ofStatus_status

theorem ofStatus_eq_serviceUnavailable_iff {code : Nat} :
    ofStatus code = .serviceUnavailable ↔ code = 503 := by
  -- splitting the cascade of the status's class case by case is exponential for `simp`; read each
  -- step as a disjunction instead, in which only the unavailable service survives
  simp only [ofStatus, ite_eq_iff, reduceCtorEq, and_false, false_or, or_false, and_true]
  omega

end ErrorClass

namespace Failure

/-- The failures whose report is classed apart from the failure itself: a refused status other
than 503, and a request that could not be built. -/
inductive ClassedApart : Failure → Prop
  | status (code : Nat) (url : String) :
      code ≠ 503 → ClassedApart (.transport (.status code url))
  | builder (url : Option String) : ClassedApart (.transport (.builder url))

theorem classedApart_iff {f : Failure} :
    ClassedApart f ↔
      (∃ code url, f = .transport (.status code url) ∧ code ≠ 503) ∨
        ∃ url, f = .transport (.builder url) := by
  constructor
  · rintro (⟨code, url, hother⟩ | ⟨url⟩)
    exacts [.inl ⟨code, url, rfl, hother⟩, .inr ⟨url, rfl⟩]
  · rintro (⟨code, url, rfl, hother⟩ | ⟨url, rfl⟩)
    exacts [.status code url hother, .builder url]

theorem report_cls (f : Failure) : f.report.cls = f.cls := by
  unfold report
  split
  · rfl
  · rfl
  · rfl
  · split <;> rfl

theorem transport_report_cls_eq_iff (e : Http.TransportError) :
    e.report.cls = (transport e).cls ↔ ¬ClassedApart (.transport e) := by
  rw [classedApart_iff]
  cases e with
  | status code url =>
    have hown : (transport (.status code url)).cls = .serviceUnavailable := rfl
    rw [hown]
    simp [Http.TransportError.report, Report.ofStatus,
      ErrorClass.ofStatus_eq_serviceUnavailable_iff]
  | builder url => simp [Http.TransportError.report, Report.internal, cls,
      Http.TransportError.isTimeout, Http.TransportError.isDecode]
  | _ => simp [Http.TransportError.report, Report.serviceUnavailable, Report.badGateway, cls,
      Http.TransportError.isTimeout, Http.TransportError.isDecode]

theorem toReport_cls_eq_iff (f : Failure) : f.toReport.cls = f.cls ↔ ¬ClassedApart f := by
  cases f with
  | transport e => exact transport_report_cls_eq_iff e
  | _ => simp [toReport, report_cls, classedApart_iff]

theorem cls_of_classedApart {f : Failure} (h : ClassedApart f) : f.cls = .serviceUnavailable := by
  cases h <;> rfl

end Failure

/-- The report a failure becomes when handed on has the failure's class, and hence its status,
for every failure but a refused status other than 503 and an unbuildable request; those are
unavailable services, reported with the class of their status and as internal failures. -/
theorem report_class_agreement (f : Failure) :
    (f.toReport.cls = f.cls ↔ ¬f.ClassedApart) ∧
      (f.toReport.status = f.cls.status ↔ ¬f.ClassedApart) ∧
      (f.ClassedApart → f.cls = .serviceUnavailable) := by
  have hstatus : f.toReport.status = f.cls.status ↔ f.toReport.cls = f.cls :=
    ErrorClass.status_injective.eq_iff
  exact ⟨f.toReport_cls_eq_iff, hstatus.trans f.toReport_cls_eq_iff, Failure.cls_of_classedApart⟩

/-- A refused status 404 is reported as not found, while the failure is an unavailable service. -/
theorem refused_status_classed_apart :
    (Failure.transport (.status 404 "/api/auth/me")).toReport.cls = .notFound ∧
      (Failure.transport (.status 404 "/api/auth/me")).cls = .serviceUnavailable :=
  ⟨rfl, rfl⟩

end Signon
