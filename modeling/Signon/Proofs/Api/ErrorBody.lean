import Mathlib
import Signon.Gateway.Http

/-!
Which message a refused request reports: the first text of `message`, `error` and the entries of
`errors` that is not blank, where an object entry offers its `message` whenever that is a string.
-/

namespace Signon

namespace ErrorBody

/-- The text an entry of `errors` offers: a string entry itself; for an object, its `message` when
that is a string, blank or not, and otherwise its `defaultMessage`. -/
def entryText : Json → Option String
  | .str s => some s
  | j@(.obj _) =>
    ((j.field? "message").bind Json.text?).orElse fun _ =>
      (j.field? "defaultMessage").bind Json.text?
  | _ => none

def offered (b : ErrorBody) : List String :=
  b.message.toList ++ b.error.toList ++ b.errors.filterMap entryText

theorem nonBlank_eq_guard : nonBlank = Option.guard fun s => !Text.isBlankText s := by
  funext s
  by_cases hblank : Text.isBlankText s <;> simp [nonBlank, Option.guard, hblank]

theorem entryMessage_eq (j : Json) : entryMessage j = (entryText j).bind nonBlank := by
  cases j with
  | str s => rfl
  | obj fields =>
    unfold entryMessage entryText
    cases hfound : ((Json.obj fields).field? "message").bind Json.text? <;> simp [hfound]
  | _ => rfl

theorem findSome?_filterMap {α β γ : Type} (f : α → Option β) (g : β → Option γ)
    (l : List α) :
    (l.filterMap f).findSome? g = l.findSome? fun a => (f a).bind g := by
  rw [← List.head?_filterMap, List.filterMap_filterMap, List.head?_filterMap]

theorem toMessage_eq (b : ErrorBody) :
    b.toMessage = b.offered.find? fun s => !Text.isBlankText s := by
  have herrors :
      b.errors.findSome? entryMessage = (b.errors.filterMap entryText).findSome? nonBlank := by
    rw [findSome?_filterMap]
    exact congrArg (List.findSome? · b.errors) (funext entryMessage_eq)
  have hfield : ∀ o : Option String,
      o.bind nonBlank = o.toList.find? fun s => !Text.isBlankText s := by
    intro o
    cases o <;> simp [nonBlank_eq_guard, Option.guard]
  rw [toMessage, Option.orElse_eq_or, Option.orElse_eq_or, herrors, offered, List.find?_append,
    List.find?_append, Option.or_assoc, hfield, hfield, nonBlank_eq_guard, List.findSome?_guard]

/-- The text of an entry when a blank text gives way to the next one: a string entry itself, an
object's `message` when it is a string that is not blank, else its `defaultMessage` when that is. -/
def usableEntryText : Json → Option String
  | .str s => nonBlank s
  | j@(.obj _) =>
    (((j.field? "message").bind Json.text?).bind nonBlank).or
      (((j.field? "defaultMessage").bind Json.text?).bind nonBlank)
  | _ => none

theorem entryMessage_eq_usable (j : Json)
    (h : ∀ s, (j.field? "message").bind Json.text? = some s → Text.isBlankText s = false) :
    entryMessage j = usableEntryText j := by
  cases j with
  | str s => rfl
  | obj fields =>
    unfold entryMessage usableEntryText
    cases hfound : ((Json.obj fields).field? "message").bind Json.text? with
    | none => simp [hfound]
    | some s => simp [hfound, nonBlank, h s hfound]
  | _ => rfl

/-- With no blank `message` among the objects of `errors`, the message of a body is the first text
that is not blank when blank texts give way to the next. -/
theorem toMessage_of_usable (b : ErrorBody)
    (h : ∀ j ∈ b.errors, ∀ s, (j.field? "message").bind Json.text? = some s →
      Text.isBlankText s = false) :
    b.toMessage = (b.message.bind nonBlank).or
      ((b.error.bind nonBlank).or (b.errors.findSome? usableEntryText)) := by
  have herrors : b.errors.findSome? entryMessage = b.errors.findSome? usableEntryText := by
    rw [← List.head?_filterMap,
      List.filterMap_congr fun j hmem => entryMessage_eq_usable j (h j hmem), List.head?_filterMap]
  rw [toMessage, Option.orElse_eq_or, Option.orElse_eq_or, herrors]

/-- An object whose `message` is blank offers no text, even beside a usable `defaultMessage`. -/
theorem blank_message_hides_default :
    toMessage ⟨none, none, [.obj [("defaultMessage", .str "d"), ("message", .str "  ")]]⟩ =
      none := by
  decide

end ErrorBody

namespace HttpGateway

/-- A response is refused exactly when its status is not a success, and then the failure carries
the status and the first text the body offers that is not blank; when the body does not read as an
error body or offers none, the status's reason phrase, else `Request failed`. -/
theorem ensureSuccess_eq_error {r : Http.Response} {f : Failure} :
    ensureSuccess r = .error f ↔
      Http.isSuccess r.status = false ∧
        f = .api r.status (((ErrorBody.ofBytes (r.body.toOption.getD [])).toOption.bind
          fun b => b.offered.find? fun s => !Text.isBlankText s).getD
            ((Http.reasonPhrase? r.status).getD "Request failed")) := by
  have hmessage : ErrorBody.toMessage = fun b => b.offered.find? fun s => !Text.isBlankText s :=
    funext ErrorBody.toMessage_eq
  unfold ensureSuccess refusal
  cases Http.isSuccess r.status <;> simp [hmessage, eq_comm]

end HttpGateway

/-- The message of an error body is the first text it offers that is not blank; when no object of
`errors` has a blank `message`, that is the first text that is not blank when blank texts give way
to the next. A response whose status is not a success is refused with that message, else with the
status's reason phrase, else with `Request failed`, whether or not its body reads as an error
body. -/
theorem refusal_messages (b : ErrorBody) (r : Http.Response) (f : Failure) :
    b.toMessage = b.offered.find? (fun s => !Text.isBlankText s) ∧
    ((∀ j ∈ b.errors, ∀ s, (j.field? "message").bind Json.text? = some s →
        Text.isBlankText s = false) →
      b.toMessage = (b.message.bind ErrorBody.nonBlank).or
        ((b.error.bind ErrorBody.nonBlank).or (b.errors.findSome? ErrorBody.usableEntryText))) ∧
    (HttpGateway.ensureSuccess r = .error f ↔
      Http.isSuccess r.status = false ∧
        f = .api r.status (((ErrorBody.ofBytes (r.body.toOption.getD [])).toOption.bind
          fun b => b.offered.find? fun s => !Text.isBlankText s).getD
            ((Http.reasonPhrase? r.status).getD "Request failed"))) :=
  ⟨b.toMessage_eq, b.toMessage_of_usable, HttpGateway.ensureSuccess_eq_error⟩

end Signon
