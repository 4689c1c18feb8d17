/-
MagnumClient.Proofs.Wrapping — a failure under the messages of operations within operations.

An operation that calls another puts its own message in front of what the other fails with
(`Failure.wrap`), and so does the operation that calls it (`wrapAll`, the innermost message first).
What comes out is told by one `layer` for each message, around the failure as a cloud failure
(`wrapAll_error`): layers of an `http` failure with its facts, or of a plain failure of an
operation. A layer is a cloud failure, so the next message goes in front of it as it is, and
nothing is added in between. Going from cause to cause takes the layers off again, one at a time
(`iterate_cause_layered`).

Failures that are the library's own, but not of an operation, take no message at all (`Passes`).
And where a value was thrown that has no text, the innermost message is lost with the value: what
the other messages are put in front of is the failure to say what it was (`speechless`).
-/
import Mathlib.Data.List.Induction
import Mathlib.Logic.Function.Iterate
import MagnumClient.Failure.Cloud

namespace MagnumClient

namespace Failure

/-! ## 1. Layers -/

/-- An outcome under the messages of operations, of which the first is the innermost. -/
def wrapAll {α : Type} (messages : List String) (outcome : Except Failure α) : Except Failure α :=
  messages.foldl (fun outcome message => wrap message outcome) outcome

/-- A failed request, or a failure that stems from one. -/
def OfRequest : Failure → Prop
  | request _ => True
  | http .. => True
  | _ => False

/-- A cloud failure that has nothing to do with the operation that met it. -/
def Passes : Failure → Prop
  | cloud kind .. => kind.isOperation = false
  | malformed .. => True
  | _ => False

/-- A message in front of a failure, with what is known of the answer behind it. -/
def layer (facts : Option HttpFacts) (message : String) (inner : Failure) : Failure :=
  match facts with
  | some facts => http message facts .nothing inner
  | none => cloud .operation message .nothing inner

/-- A failure under messages, of which the first is the innermost. -/
def layered (facts : Option HttpFacts) (messages : List String) (core : Failure) : Failure :=
  messages.foldl (fun inner message => layer facts message inner) core

section

variable (facts : Option HttpFacts) (message : String) (inner : Failure)

@[simp] theorem message_layer : (layer facts message inner).message = message := by
  cases facts <;> rfl

@[simp] theorem cause_layer : (layer facts message inner).cause = inner := by
  cases facts <;> rfl

@[simp] theorem facts?_layer : (layer facts message inner).facts? = facts := by
  cases facts <;> rfl

@[simp] theorem toCloud_layer :
    (layer facts message inner).toCloud = layer facts message inner := by
  cases facts <;> rfl

theorem not_passes_layer : ¬ (layer facts message inner).Passes := by
  cases facts with
  | none => exact Bool.noConfusion
  | some facts => exact id

theorem hasText_layer : (layer facts message inner).hasText = true := by
  cases facts <;> rfl

end

theorem layered_concat (facts : Option HttpFacts) (messages : List String) (message : String)
    (core : Failure) : layered facts (messages ++ [message]) core =
      layer facts message (layered facts messages core) := by
  rw [layered, List.foldl_append]
  rfl

/-! ## 2. Wrapping -/

/-- A failure that does not pass, and has a text, gets a layer around the cloud failure that it
is. -/
theorem under_of_not_passes {f : Failure} (h : ¬ f.Passes) (htext : f.hasText = true)
    (message : String) : f.under message = layer f.toCloud.facts? message f.toCloud := by
  cases f with
  | cloud kind m extra cause =>
    have hkind : kind.isOperation = true := by simpa [Passes] using h
    simp [under, toCloud, hkind, layer, facts?]
  | malformed resource field => exact absurd trivial h
  | thrown v =>
    rw [under, toCloud, if_pos htext]
    rfl
  | _ => rfl

/-- A failure without a text is replaced by the failure to say what it is. -/
theorem under_of_not_hasText {f : Failure} (h : f.hasText = false) (message : String) :
    f.under message = speechless := by
  rw [under, toCloud_of_not_hasText h]
  rfl

/-- A failure that passes gets none. -/
theorem under_of_passes {f : Failure} (h : f.Passes) (message : String) : f.under message = f := by
  cases f with
  | cloud kind m extra cause =>
    have hkind : kind.isOperation = false := h
    simp [under, toCloud, hkind]
  | malformed resource field => rfl
  | _ => cases h

theorem wrapAll_error_of_passes {α : Type} {f : Failure} (h : f.Passes) (messages : List String) :
    wrapAll messages (.error f : Except Failure α) = .error f := by
  induction messages with
  | nil => rfl
  | cons message messages ih =>
    rw [wrapAll, List.foldl_cons, wrap, under_of_passes h, ← wrapAll, ih]

/-- Another message in front of a layer is another layer. -/
theorem wrapAll_error_layer {α : Type} (facts : Option HttpFacts) (message : String)
    (inner : Failure) (messages : List String) :
    wrapAll messages (.error (layer facts message inner) : Except Failure α) =
      .error (layered facts messages (layer facts message inner)) := by
  induction messages generalizing message inner with
  | nil => rfl
  | cons next messages ih =>
    rw [wrapAll, List.foldl_cons, wrap, under_of_not_passes (not_passes_layer facts message inner)
      (hasText_layer facts message inner), toCloud_layer, facts?_layer, ← wrapAll, ih, layered,
      layered, List.foldl_cons]

/-- **A failure under messages**: a layer for each, around the cloud failure that it is. -/
theorem wrapAll_error {α : Type} {f : Failure} (h : ¬ f.Passes) (htext : f.hasText = true)
    {messages : List String} (hne : messages ≠ []) :
    wrapAll messages (.error f : Except Failure α) =
      .error (layered f.toCloud.facts? messages f.toCloud) := by
  obtain ⟨message, messages, rfl⟩ := List.exists_cons_of_ne_nil hne
  rw [wrapAll, List.foldl_cons, wrap, under_of_not_passes h htext, ← wrapAll, wrapAll_error_layer,
    layered, layered, List.foldl_cons]

/-- A failure without a text takes the innermost message with it. -/
theorem wrapAll_error_of_not_hasText {α : Type} {f : Failure} (h : f.hasText = false)
    {messages : List String} (hne : messages ≠ []) :
    wrapAll messages (.error f : Except Failure α) = wrapAll messages.tail (.error speechless) := by
  obtain ⟨message, messages, rfl⟩ := List.exists_cons_of_ne_nil hne
  rw [wrapAll, List.foldl_cons, wrap, under_of_not_hasText h, List.tail_cons, wrapAll]

/-! ## 3. Causes -/

/-- Going from cause to cause takes the outer layers off. -/
theorem iterate_cause_layered (facts : Option HttpFacts) (inner outer : List String)
    (core : Failure) : cause^[outer.length] (layered facts (inner ++ outer) core) =
      layered facts inner core := by
  induction outer using List.reverseRecOn with
  | nil => rw [List.append_nil, List.length_nil, Function.iterate_zero_apply]
  | append_singleton outer message ih =>
    rw [List.length_append, List.length_singleton, Function.iterate_succ_apply,
      ← List.append_assoc, layered_concat, cause_layer, ih]

/-- The failure that is met after going on from cause to cause, while there are layers. -/
theorem exists_layer_of_lt (facts : Option HttpFacts) {messages : List String} (core : Failure)
    {i : Nat} (h : i < messages.length) : ∃ inner,
      cause^[i] (layered facts messages core) =
        layer facts (messages.get ⟨messages.length - 1 - i, by omega⟩) inner := by
  -- what is left are the layers up to that message
  have hlast : messages.length - 1 - i < messages.length := by omega
  have hsplit := List.take_append_drop (messages.length - i) messages
  have hlength : (messages.drop (messages.length - i)).length = i := by
    rw [List.length_drop]
    omega
  have hsucc : messages.length - i = messages.length - 1 - i + 1 := by omega
  have hpeeled := iterate_cause_layered facts (messages.take (messages.length - i))
    (messages.drop (messages.length - i)) core
  rw [hsplit, hlength] at hpeeled
  rw [hpeeled, hsucc, List.take_succ_eq_append_getElem hlast, layered_concat]
  exact ⟨_, rfl⟩

/-- The last layer is around the failure itself. -/
theorem iterate_cause_all (facts : Option HttpFacts) (messages : List String) (core : Failure) :
    cause^[messages.length] (layered facts messages core) = core :=
  iterate_cause_layered facts [] messages core

/-- Behind the cloud failure that another failure was made to is that failure. -/
theorem cause_toCloud {f : Failure} (h : f.isCloud = false) (htext : f.hasText = true) :
    f.toCloud.cause = f := by
  cases f with
  | thrown v =>
    rw [toCloud, if_pos htext]
    rfl
  | _ => first | rfl | cases h

theorem exists_facts_of_ofRequest {f : Failure} (h : f.OfRequest) :
    ∃ facts, f.toCloud.facts? = some facts := by
  cases f with
  | request r => exact ⟨_, rfl⟩
  | http m facts extra cause => exact ⟨_, rfl⟩
  | _ => cases h

theorem facts?_toCloud_of_not_ofRequest {f : Failure} (h : ¬ f.OfRequest) :
    f.toCloud.facts? = none := by
  cases f with
  | request r => exact absurd trivial h
  | http m facts extra cause => exact absurd trivial h
  | thrown v =>
    rw [toCloud]
    split <;> rfl
  | _ => rfl

theorem not_passes_of_ofRequest {f : Failure} (h : f.OfRequest) : ¬ f.Passes := by
  cases f with
  | request r => exact id
  | http m facts extra cause => exact id
  | _ => cases h

/-! ## 4. Any depth -/

/-- What is promised of a failure under messages. -/
structure Kept (f : Failure) (messages : List String) (h : messages ≠ []) (g : Failure) : Prop where
  /-- What stems from a request has the outermost message and the facts of the cloud failure. -/
  ofRequest : f.OfRequest → ∃ facts inner, f.toCloud.facts? = some facts ∧
    g = http (messages.getLast h) facts .nothing inner
  /-- A cloud failure that is none of an operation stays itself. -/
  passes : f.Passes → g = f
  /-- Any other becomes a plain failure of an operation with the outermost message. -/
  plain : ¬ f.OfRequest → ¬ f.Passes →
    ∃ inner, g = cloud .operation (messages.getLast h) .nothing inner
  /-- Each message is found once, from the outermost to the innermost, with the same facts. -/
  layers : ¬ f.Passes → ∀ i, ∀ hi : i < messages.length,
    (cause^[i] g).message = messages[messages.length - 1 - i] ∧
    (cause^[i] g).facts? = f.toCloud.facts?
  /-- Behind them is the cloud failure. -/
  core : ¬ f.Passes → cause^[messages.length] g = f.toCloud
  /-- Behind that is the failure, if it was not a cloud failure already. -/
  foreign : ¬ f.Passes → f.isCloud = false → cause^[messages.length + 1] g = f

/-- All of it holds of a failure with a text. -/
theorem kept_wrapAll {α : Type} {f : Failure} (htext : f.hasText = true) {messages : List String}
    (h : messages ≠ []) :
    ∃ g, wrapAll messages (.error f : Except Failure α) = .error g ∧ Kept f messages h g := by
  by_cases hpasses : f.Passes
  · refine ⟨f, wrapAll_error_of_passes hpasses messages, ?_⟩
    exact
      { ofRequest := fun hrequest => absurd hpasses (not_passes_of_ofRequest hrequest)
        passes := fun _ => rfl
        plain := fun _ hnot => absurd hpasses hnot
        layers := fun hnot => absurd hpasses hnot
        core := fun hnot => absurd hpasses hnot
        foreign := fun hnot => absurd hpasses hnot }
  · have hlength : 0 < messages.length := List.length_pos_iff.mpr h
    have hcauses := iterate_cause_all f.toCloud.facts? messages f.toCloud
    obtain ⟨inner, hinner⟩ := exists_layer_of_lt f.toCloud.facts? f.toCloud hlength
    have hlast : messages.get ⟨messages.length - 1 - 0, by omega⟩ = messages.getLast h :=
      (List.getLast_eq_getElem h).symm
    rw [Function.iterate_zero_apply, hlast] at hinner
    refine ⟨_, wrapAll_error hpasses htext h, ?_⟩
    constructor
    · intro hrequest
      obtain ⟨facts, hfacts⟩ := exists_facts_of_ofRequest hrequest
      exact ⟨facts, inner, hfacts, by rw [hinner, hfacts, layer]⟩
    · exact fun hp => absurd hp hpasses
    · intro hrequest _
      exact ⟨inner, by rw [hinner, facts?_toCloud_of_not_ofRequest hrequest, layer]⟩
    · intro _ i hi
      obtain ⟨_, hlayer⟩ := exists_layer_of_lt f.toCloud.facts? f.toCloud hi
      rw [hlayer]
      exact ⟨message_layer .., facts?_layer ..⟩
    · exact fun _ => hcauses
    · intro _ hforeign
      rw [Function.iterate_succ_apply', hcauses, cause_toCloud hforeign htext]

/-- Where a failure has no text, it is not behind what its wrapping comes to: what is there says
nothing of it. -/
theorem iterate_cause_of_not_hasText {α : Type} {f g : Failure} (htext : f.hasText = false)
    {messages : List String} (h : messages ≠ [])
    (hg : wrapAll messages (.error f : Except Failure α) = .error g) :
    cause^[messages.length + 1] g = nothing := by
  rw [wrapAll_error_of_not_hasText htext h] at hg
  obtain ⟨message, messages, rfl⟩ := List.exists_cons_of_ne_nil h
  rw [List.tail_cons] at hg
  by_cases hne : messages = []
  · subst hne
    obtain rfl := Except.error.inj hg
    rfl
  · obtain ⟨g', hg', hkept⟩ := kept_wrapAll (α := α) (f := speechless) rfl hne
    obtain rfl := Except.error.inj (hg'.symm.trans hg)
    rw [List.length_cons, Function.iterate_succ_apply', hkept.foreign id rfl]
    rfl

end Failure

end MagnumClient
