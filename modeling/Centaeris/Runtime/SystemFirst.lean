import Centaeris.Runtime.ProviderMessages
import Centaeris.Foundation.Pairing

namespace Centaeris

open Foundation MessageAdapter Outcome List ModelMessageV1

/-!
# System messages come first

Both builders refuse a system message once there is conversation content.
-/

variable {item : ModelMessageV1}

/-- Whether a message can become conversation content. -/
def ModelMessageV1.speaks (item : ModelMessageV1) : Bool :=
  match item.role with
  | .system => false
  | .user => !isBlank item.content
  | .assistant =>
    !isBlank item.content || !item.toolCalls.isEmpty || item.reasoningContent.isSome
  | .tool => true

/-- No system message stands after a message that speaks. -/
def SystemFirst (items : List ModelMessageV1) : Prop :=
  items.Pairwise fun earlier later => earlier.speaks = true → later.role ≠ .system

instance (items : List ModelMessageV1) : Decidable (SystemFirst items) :=
  inferInstanceAs (Decidable (items.Pairwise _))

/-- The failure of a protocol that finds a system message too late. -/
def Late (label : String) (failure : Failure) : Prop :=
  ∃ messageId, failure = .err (afterContentText label messageId)

/-- A text begins otherwise than the complaint of a protocol. -/
def Apart (front label : String) : Bool :=
  (front.toList.zip (label ++ " system message ").toList).any fun pair => pair.1 != pair.2

variable {label : String}

theorem not_late_of_front {front rest : String} (h : Apart front label = true) :
    ¬ Late label (.err (front ++ rest)) := by
  rintro ⟨messageId, heq⟩
  have htext : front ++ rest =
      label ++ " system message " ++ (messageId ++ " appears after conversation content") := by
    simpa only [afterContentText, String.append_assoc] using Failure.err.inj heq
  exact append_ne_append h _ _ htext

theorem not_late_of_text {text : String} (h : Apart text label = true) :
    ¬ Late label (.err text) := by
  have hfront : ¬ Late label (.err (text ++ "")) := not_late_of_front h
  rwa [String.append_empty] at hfront

/-! ### What a protocol has to guarantee -/

namespace MessageAdapter

variable {μ : Type}

/-- A message that does not speak adds nothing to an empty conversation, and only the walk
    itself complains about system messages. -/
structure Lawful (adapter : MessageAdapter μ) : Prop where
  label_apart : Apart "assistant tool call " adapter.label = true
  label_apart_tool : Apart "tool message " adapter.label = true
  user_avoids : ∀ msgs item, (adapter.pushUser msgs item).Avoids (Late adapter.label)
  assistant_avoids : ∀ msgs item,
    (adapter.pushAssistant msgs item).Avoids (Late adapter.label)
  user_silent : ∀ item msgs, isBlank item.content = true →
    adapter.pushUser [] item = .ok msgs → msgs = []
  assistant_silent : ∀ item msgs opened, isBlank item.content = true →
    item.toolCalls = [] → item.reasoningContent = none →
    adapter.pushAssistant [] item = .ok (msgs, opened) → msgs = []

namespace Lawful

variable {adapter : MessageAdapter μ} (lawful : adapter.Lawful)

include lawful

variable {state : AdapterState μ} {item : ModelMessageV1}

theorem step_avoids (h : state.messages = [] ∨ item.role ≠ .system) :
    (adapter.step state item).Avoids (Late adapter.label) := by
  refine .bind (.ensure fun _ => ?_) fun _ _ => ?_
  · simp only [String.append_assoc]
    exact not_late_of_front lawful.label_apart
  · cases hrole : item.role with
    | system =>
      have hemp : state.messages = [] := h.resolve_right (by simp [hrole])
      refine .bind (.ensure fun hfalse => ?_) fun _ _ => .pure _
      simp [hemp] at hfalse
    | user => exact .bind (lawful.user_avoids _ _) fun _ _ => .pure _
    | assistant => exact .bind (lawful.assistant_avoids _ _) fun _ _ => .pure _
    | tool =>
      refine .bind (.orFail ?_) fun _ _ => .bind (.orFail ?_) fun _ _ =>
        .bind (.ensure fun _ => ?_) fun _ _ => .pure _
      all_goals
        simp only [String.append_assoc]
        exact not_late_of_front lawful.label_apart_tool

theorem step_silent {state' : AdapterState μ} (hemp : state.messages = [])
    (hsilent : item.speaks = false) (h : adapter.step state item = .ok state') :
    state'.messages = [] := by
  simp only [step, ok_rules] at h
  obtain ⟨-, h⟩ := h
  cases hrole : item.role with
  | system =>
    simp only [hrole, ok_rules] at h
    obtain ⟨-, rfl⟩ := h
    exact hemp
  | user =>
    simp only [hrole, hemp, ok_rules] at h
    obtain ⟨msgs, hpush, rfl⟩ := h
    exact lawful.user_silent item msgs (by simpa [speaks, hrole] using hsilent)
      hpush
  | assistant =>
    simp only [hrole, hemp, ok_rules] at h
    obtain ⟨⟨msgs, opened⟩, hpush, rfl⟩ := h
    have hparts : (isBlank item.content = true ∧ item.toolCalls = []) ∧
        item.reasoningContent = none := by
      simpa [speaks, hrole] using hsilent
    exact lawful.assistant_silent item msgs opened hparts.1.1 hparts.1.2 hparts.2 hpush
  | tool => simp [speaks, hrole] at hsilent

/-- Then no builder complains about a system message. -/
theorem walk_avoids {request : ModelClientRequest}
    (h : SystemFirst request.preparedPrompt.messages) :
    (adapter.walk request).Avoids (Late adapter.label) := by
  refine .bind ?_ fun state _ => ?_
  · -- Until a message speaks the conversation is empty; afterwards no system message comes.
    refine .foldlM (fun state rest => SystemFirst rest ∧
      (state.messages = [] ∨ ∀ item ∈ rest, item.role ≠ .system)) ?_ ⟨h, .inl rfl⟩
    rintro state item rest ⟨hfst, hsta⟩
    obtain ⟨hlat, hrest⟩ := pairwise_cons.mp hfst
    refine ⟨lawful.step_avoids ?_, fun state' hstep => ⟨hrest, ?_⟩⟩
    · exact hsta.imp_right fun hall => hall item mem_cons_self
    · rcases hsta with hemp | hall
      · cases hspeaks : item.speaks with
        | false => exact .inl (lawful.step_silent hemp hspeaks hstep)
        | true => exact .inr fun later hm => hlat later hm hspeaks
      · exact .inr fun later hm => hall later (mem_cons_of_mem item hm)
  · split
    · simp only [String.append_assoc]
      exact .fail (not_late_of_front lawful.label_apart)
    · exact .pure state

end Lawful

end MessageAdapter

/-! ### The two protocols -/

section Protocols

variable (readers : ProviderReaders) (request : ModelClientRequest)

theorem placeholderText_not_late (item : ModelMessageV1) (image : ModelInputImageV1)
    (h : Apart "image placeholder is missing: messageId=" label = true) :
    ¬ Late label (.err (placeholderText item image)) := by
  have hfront := @not_late_of_front label _
    (item.messageId ++ (" placeholder=" ++ image.placeholder)) h
  rw [← String.append_assoc, ← String.append_assoc] at hfront
  exact hfront

theorem placedImages_avoids (item : ModelMessageV1)
    (h : Apart "image placeholder is missing: messageId=" label = true) :
    (placedImages request item).Avoids (Late label) := by
  refine .mapM fun image _ => .bind (.orFail (placeholderText_not_late item image h)) ?_
  intro position _
  exact .pure (position, image)

theorem providerInputParts_avoids (item : ModelMessageV1)
    (h : Apart "image placeholder is missing: messageId=" label = true) :
    (providerInputParts request item).Avoids (Late label) := by
  refine .bind (placedImages_avoids request item h) fun images _ => ?_
  cases hnone : images.isEmpty with
  | true | false => exact .pure _

theorem placedImages_blank {images : List (Nat × ModelInputImageV1)}
    (hblk : isBlank item.content = true) (h : placedImages request item = .ok images) :
    images = [] := by
  rw [placedImages, mapM_eq_ok_iff] at h
  generalize request.preparedPrompt.inputImages.filter _ = own at h
  cases h with
  | nil => rfl
  | @cons image _ _ _ himage _ =>
    simp only [ok_rules] at himage
    obtain ⟨place, hplc, -⟩ := himage
    have hsub := subset_of_findText? hplc
    have hspaces : isBlank image.placeholder = true := by
      rw [isBlank, all_eq_true] at hblk ⊢
      exact fun c hc => hblk c (hsub hc)
    rw [image.placeholder_named] at hspaces
    cases hspaces

theorem providerInputParts_blank {parts : List ProviderInputPart}
    (hblk : isBlank item.content = true)
    (h : providerInputParts request item = .ok parts) : parts = [] := by
  simp only [providerInputParts, bind_eq_ok] at h
  obtain ⟨images, hplaced, h⟩ := h
  rw [placedImages_blank request hblk hplaced, isEmpty_nil, if_pos rfl, if_pos hblk,
    pure_eq_ok] at h
  exact h.symm

theorem parseMinimaxContentBlocks_avoids (raw : String) :
    (parseMinimaxContentBlocks readers raw).Avoids (Late "anthropic") := by
  refine .bind (.orFail ?_) fun _ _ => .bind (.ensure fun _ => ?_) fun _ _ => .pure _
  · exact not_late_of_text (by decide)
  · exact not_late_of_text (by decide)

theorem minimaxReplay_avoids (item : ModelMessageV1) :
    (minimaxReplay readers request item).Avoids (Late "anthropic") := by
  unfold minimaxReplay
  split
  · rw [map_eq_pure_bind]
    exact .bind (parseMinimaxContentBlocks_avoids readers _) fun _ _ => .pure _
  · exact .pure none

theorem anthropicToolUse_avoids (call : ModelToolCallV1) :
    (anthropicToolUse readers call).Avoids (Late "anthropic") := by
  refine .bind (.mapError fun error => ?_) fun _ _ => .pure _
  simp only [String.append_assoc]
  exact not_late_of_front (by decide)

theorem pushAnthropicAssistant_avoids (msgs : List AnthropicMessage) (item : ModelMessageV1) :
    (pushAnthropicAssistant readers request msgs item).Avoids (Late "anthropic") := by
  refine .bind (minimaxReplay_avoids readers request item) fun replay _ => ?_
  cases replay with
  | some content =>
    refine .bind (.ensure fun _ => ?_) fun _ _ => .pure _
    exact not_late_of_front (by decide)
  | none =>
    refine .bind (.ensure fun _ => ?_) fun _ _ =>
      .bind (.mapM fun call _ => anthropicToolUse_avoids readers call) fun _ _ => .pure _
    exact not_late_of_front (by decide)

theorem pushAnthropicAssistant_silent {msgs : List AnthropicMessage} {opened : List String}
    (hblk : isBlank item.content = true) (hcalls : item.toolCalls = [])
    (hreas : item.reasoningContent = none)
    (h : pushAnthropicAssistant readers request [] item = .ok (msgs, opened)) :
    msgs = [] := by
  have hreplay : minimaxReplay readers request item = pure none := by
    simp [minimaxReplay, hreas]
  simp only [pushAnthropicAssistant, hreplay, hblk, hcalls, ok_rules, exists_eq_left', mapM_nil,
    if_true, append_nil, isEmpty_nil, Prod.mk.injEq] at h
  exact h.2.1.symm

theorem anthropicAdapter_lawful : (anthropicAdapter readers request).Lawful where
  label_apart := (by decide : Apart "assistant tool call " "anthropic" = true)
  label_apart_tool := (by decide : Apart "tool message " "anthropic" = true)
  user_avoids msgs item := by
    refine .bind (providerInputParts_avoids request item ?_) fun _ _ => .pure _
    show Apart "image placeholder is missing: messageId=" "anthropic" = true
    decide
  assistant_avoids := pushAnthropicAssistant_avoids readers request
  user_silent item msgs hblk h := by
    simp only [anthropicAdapter, ok_rules] at h
    obtain ⟨parts, hparts, rfl⟩ := h
    rw [providerInputParts_blank request hblk hparts]
    rfl
  assistant_silent item msgs opened hblk hcalls hreas h :=
    pushAnthropicAssistant_silent readers request hblk hcalls hreas h

theorem openaiAdapter_lawful : (openaiAdapter readers request).Lawful where
  label_apart := (by decide : Apart "assistant tool call " "openai-compatible" = true)
  label_apart_tool := (by decide : Apart "tool message " "openai-compatible" = true)
  user_avoids msgs item := by
    refine .bind (providerInputParts_avoids request item ?_) fun _ _ => .pure _
    show Apart "image placeholder is missing: messageId=" "openai-compatible" = true
    decide
  assistant_avoids msgs item := .pure _
  user_silent item msgs hblk h := by
    simp only [openaiAdapter, ok_rules] at h
    obtain ⟨parts, hparts, rfl⟩ := h
    rw [providerInputParts_blank request hblk hparts]
    rfl
  assistant_silent item msgs opened hblk hcalls hreas h := by
    simp only [openaiAdapter, pushOpenaiAssistant, buildOpenaiCompatibleAssistantMessage, hblk,
      hcalls, hreas, pure_eq_ok, Prod.mk.injEq] at h
    simpa using h.1.symm

theorem buildAnthropicMessages_avoids (h : SystemFirst request.preparedPrompt.messages) :
    (buildAnthropicMessages readers request).Avoids (Late "anthropic") := by
  refine .bind ((anthropicAdapter_lawful readers request).walk_avoids h) fun state _ =>
    .bind (.ensure fun _ => ?_) fun _ _ => .pure _
  exact not_late_of_text (by decide)

theorem buildOpenaiCompatibleMessages_avoids (h : SystemFirst request.preparedPrompt.messages) :
    (buildOpenaiCompatibleMessages readers request).Avoids (Late "openai-compatible") :=
  .bind ((openaiAdapter_lawful readers request).walk_avoids h) fun _ _ => .pure _

end Protocols

/-! ### Refused orders -/

/-- What a message does to the open tool calls. -/
def ModelMessageV1.move (item : ModelMessageV1) : Option (Move String) :=
  match item.role with
  | .system | .user => some .plain
  | .assistant => some (.opens (item.toolCalls.map (·.id)))
  | .tool => item.toolCallId.map .answers

/-- Every tool call is answered at once and in order, given the calls that are still open. -/
abbrev ToolPaired : List String → List ModelMessageV1 → Prop := Paired ModelMessageV1.move

theorem ModelMessageV1.move_of_plain
    (h : item.role = .system ∨ item.role = .user) : item.move = some .plain := by
  rcases h with hrole | hrole <;> simp [move, hrole]

/-- A request without images to a provider that is not of the Gemini kind. -/
structure PlainRequest (request : ModelClientRequest) : Prop where
  images : request.preparedPrompt.inputImages = []
  gemini : request.gemini = false

section Refusal

variable (readers : ProviderReaders) {request : ModelClientRequest}

theorem providerInputParts_plain (plain : PlainRequest request) (item : ModelMessageV1) :
    providerInputParts request item =
      pure (if isBlank item.content then [] else [.text (trim item.content)]) := by
  simp [providerInputParts, placedImages, plain.images, pure, Except.pure, bind, Except.bind]

theorem opened_calls (item : ModelMessageV1) :
    ((buildOpenaiCompatibleAssistantMessage readers request item).toolCalls.getD []).map (·.id) =
      item.toolCalls.map (·.id) := by
  have hids : (item.toolCalls.zipIdx.map fun entry =>
      openaiCompatibleToolCall readers request item entry.1 entry.2).map (·.id) =
        item.toolCalls.map (·.id) := by
    rw [List.map_map]
    calc item.toolCalls.zipIdx.map _ = (item.toolCalls.zipIdx.map Prod.fst).map (·.id) := by
          rw [List.map_map]
          rfl
      _ = item.toolCalls.map (·.id) := by rw [zipIdx_map_fst]
  rw [← hids, buildOpenaiCompatibleAssistantMessage]
  split
  · rename_i hnone
    rw [isEmpty_iff.mp hnone]
    rfl
  · rfl

theorem openai_step (plain : PlainRequest request)
    {state : AdapterState OpenAiCompatibleChatMessage}
    {rest : List ModelMessageV1} (hpair : ToolPaired state.pendingToolCallIds (item :: rest))
    (hrole : item.role ≠ .system) :
    ∃ state', (openaiAdapter readers request).step state item = .ok state' ∧
      ToolPaired state'.pendingToolCallIds rest ∧
      (state'.messages = [] → state.messages = [] ∧ item.speaks = false) := by
  obtain ⟨parts, msgs, pending⟩ := state
  cases hkind : item.role with
  | system => exact absurd hkind hrole
  | user =>
    have hopen : pending = [] ∧ ToolPaired [] rest := by
      cases hpair with
      | plain _ hrest => exact ⟨rfl, hrest⟩
      | opens hmove _ | answers hmove _ => simp [move, hkind] at hmove
    obtain ⟨rfl, hrest⟩ := hopen
    cases hblk : isBlank item.content with
    | true =>
      refine ⟨⟨parts, msgs, []⟩, ?_, hrest, fun hnone => ⟨hnone, ?_⟩⟩
      · simp only [step, hkind, openaiAdapter, providerInputParts_plain plain, hblk]
        rfl
      · simp [speaks, hkind, hblk]
    | false =>
      refine ⟨⟨parts, msgs ++ [⟨"user", .string (trim item.content), none, none, none⟩], []⟩,
        ?_, hrest, by simp⟩
      simp only [step, hkind, openaiAdapter, providerInputParts_plain plain, hblk]
      rfl
  | assistant =>
    have hopen : pending = [] ∧ ToolPaired (item.toolCalls.map (·.id)) rest := by
      cases hpair with
      | plain hmove _ | answers hmove _ => simp [move, hkind] at hmove
      | opens hmove hrest =>
        simp only [move, hkind, Option.some.injEq, Move.opens.injEq] at hmove
        exact ⟨rfl, hmove ▸ hrest⟩
    obtain ⟨rfl, hrest⟩ := hopen
    have hstep : (openaiAdapter readers request).step ⟨parts, msgs, []⟩ item =
        .ok ⟨parts, if item.speaks then
            msgs ++ [buildOpenaiCompatibleAssistantMessage readers request item] else msgs,
          item.toolCalls.map (·.id)⟩ := by
      have hsent : item.speaks = (!isBlank item.content ||
          (buildOpenaiCompatibleAssistantMessage readers request item).toolCalls.isSome ||
          (buildOpenaiCompatibleAssistantMessage readers request item).reasoningContent.isSome) := by
        simp only [speaks, hkind, buildOpenaiCompatibleAssistantMessage, plain.gemini]
        cases item.toolCalls <;> rfl
      rw [← opened_calls readers item, hsent]
      simp only [step, hkind, openaiAdapter, pushOpenaiAssistant]
      rfl
    refine ⟨_, hstep, hrest, fun hnone => ?_⟩
    cases hspeaks : item.speaks with
    | true => simp [hspeaks] at hnone
    | false => simpa [hspeaks] using hnone
  | tool =>
    have hopen : ∃ callId later, pending = callId :: later ∧ item.toolCallId = some callId ∧
        ToolPaired later rest := by
      cases hpair with
      | plain hmove _ | opens hmove _ => simp [move, hkind] at hmove
      | answers hmove hrest =>
        simp only [move, hkind, Option.map_eq_some_iff, Move.answers.injEq,
          exists_eq_right] at hmove
        exact ⟨_, _, rfl, hmove, hrest⟩
    obtain ⟨callId, later, rfl, hcall, hrest⟩ := hopen
    refine ⟨⟨parts, msgs ++ [⟨"tool", .string item.content, none, none, some callId⟩],
      later⟩, ?_, hrest, by simp⟩
    simp only [step, hkind, openaiAdapter, hcall, isEmpty_cons,
      beq_self_eq_true, Bool.or_true, ensure, if_true, orFail, head?_cons, ok_bind]
    rfl

/-- A walk that has content before a system message, or will have it, ends there. -/
theorem openai_foldlM_refuses (plain : PlainRequest request) {items : List ModelMessageV1}
    {state : AdapterState OpenAiCompatibleChatMessage}
    (hpair : ToolPaired state.pendingToolCallIds items)
    (h : (state.messages ≠ [] ∧ ∃ item ∈ items, item.role = .system) ∨ ¬ SystemFirst items) :
    ∃ failure, Late "openai-compatible" failure ∧
      items.foldlM (openaiAdapter readers request).step state = .error failure := by
  induction items generalizing state with
  | nil =>
    rcases h with ⟨-, item, hm, -⟩ | hlate
    · cases hm
    · exact absurd List.Pairwise.nil hlate
  | cons item rest ih =>
    rw [foldlM_cons]
    by_cases hsystem : item.role = .system
    · obtain ⟨parts, msgs, pending⟩ := state
      have hpend : pending = [] ∧ ToolPaired [] rest := by
        cases hpair with
        | plain _ hrest => exact ⟨rfl, hrest⟩
        | opens hmove _ | answers hmove _ => simp [move, hsystem] at hmove
      obtain ⟨rfl, hrest⟩ := hpend
      cases msgs with
      | cons first more =>
        refine ⟨.err (afterContentText "openai-compatible" item.messageId), ⟨_, rfl⟩, ?_⟩
        simp only [step, hsystem]
        rfl
      | nil =>
        -- A system message at the front is taken; what is wrong comes later.
        have hlate : ¬ SystemFirst rest := by
          rcases h with ⟨hne, -⟩ | hlate
          · exact absurd rfl hne
          · intro hfst
            refine hlate (pairwise_cons.mpr ⟨fun _ _ hspeaks => ?_, hfst⟩)
            simp [speaks, hsystem] at hspeaks
        obtain ⟨failure, hfailure, hrun⟩ := @ih
          ⟨parts ++ if isBlank item.content then [] else [trim item.content], [], []⟩ hrest
          (.inr hlate)
        refine ⟨failure, hfailure, ?_⟩
        rw [← hrun]
        simp only [step, hsystem]
        rfl
    · obtain ⟨state', hstep, hrest, hmsgs⟩ := openai_step readers plain hpair hsystem
      rw [hstep]
      refine ih hrest ?_
      rcases h with ⟨hne, later, hm, hlat⟩ | hlate
      · have hm' : later ∈ rest := by
          rcases mem_cons.mp hm with rfl | hm
          · exact absurd hlat hsystem
          · exact hm
        exact .inl ⟨fun hnone => hne (hmsgs hnone).1, later, hm', hlat⟩
      · by_cases hfst : SystemFirst rest
        · have hspeaks : ∃ later ∈ rest, item.speaks = true ∧ later.role = .system := by
            by_contra hall
            push Not at hall
            exact hlate (pairwise_cons.mpr
              ⟨fun later hm hspeaks => hall later hm hspeaks, hfst⟩)
          obtain ⟨later, hm, hspeaks, hlat⟩ := hspeaks
          refine .inl ⟨fun hnone => ?_, later, hm, hlat⟩
          rw [(hmsgs hnone).2] at hspeaks
          cases hspeaks
        · exact .inr hfst

/-- Otherwise the chat completions builder does, already on a plain request. -/
theorem openai_refuses (plain : PlainRequest request)
    (hpair : ToolPaired [] request.preparedPrompt.messages)
    (h : ¬ SystemFirst request.preparedPrompt.messages) :
    ¬ (buildOpenaiCompatibleMessages readers request).Avoids (Late "openai-compatible") := by
  obtain ⟨failure, hlate, hrun⟩ := openai_foldlM_refuses readers plain
    (show ToolPaired (start request).pendingToolCallIds _ from hpair) (.inr h)
  intro havoids
  refine havoids failure ?_ hlate
  rw [buildOpenaiCompatibleMessages, walk, hrun]
  rfl

end Refusal

end Centaeris
