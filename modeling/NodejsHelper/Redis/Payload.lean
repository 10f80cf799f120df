/-
The three wire forms of a payload (`redis.go`): bare, as the web application sends it, behind a slash,
as sc-redis sent it without an instance id, and behind the id of a node and a slash. They are told
apart by the tag and the first slash alone, so what the payload itself contains cannot matter: it is
split off as it is (`splitRedisPayload_wireForm`), and delivered unless the node sent it.
-/
import NodejsHelper.Redis.Identity
import NodejsHelper.Lib.JsonRoundtrip

namespace NodejsHelper

open Strings

/-! ## Wire forms -/

/-- How a payload is sent: bare, behind a slash, or behind an id and a slash. -/
inductive WireForm
  | bare
  | anonymous
  | sent (sender : String)

/-- The message of a form. -/
def WireForm.wire : WireForm → String → String
  | bare, payload => payload
  | anonymous, payload => "/" ++ payload
  | sent sender, payload => sender ++ "/" ++ payload

/-- The sender a form names. -/
def WireForm.sender : WireForm → String
  | bare | anonymous => ""
  | sent sender => sender

/-- The id of a sending node is plain. -/
def WireForm.Plain : WireForm → Prop
  | bare | anonymous => True
  | sent sender => PlainID sender

/-- An id that is not empty, has no slash and does not begin like a tag. -/
theorem plainID_of {id : String} (hne : id ≠ "") (hslash : '/' ∉ id.toList) (htag : hasTag id.toList = false) :
    PlainID id :=
  ⟨hne, hslash, hasTag_append_slash htag⟩

theorem hasTag_toList_append {tag : String} (h : hasTag tag.toList = true) (body : String) :
    hasTag (tag ++ body).toList = true := by
  simp only [hasTag, Bool.or_eq_true, List.isPrefixOf_iff_prefix, String.toList_append] at h ⊢
  exact h.imp (·.trans (List.prefix_append _ _)) (·.trans (List.prefix_append _ _))

/-- A tagged payload is split off in every form, with the sender the form names. -/
theorem splitRedisPayload_wireForm {form : WireForm} (hform : form.Plain) {payload : String}
    (htag : hasTag payload.toList = true) : splitRedisPayload (form.wire payload) = (form.sender, payload) := by
  cases form with
  | bare =>
    -- a tag is no slash, so the first test fails and the second one succeeds
    unfold splitRedisPayload WireForm.wire WireForm.sender
    split
    · rename_i rest h
      rw [h] at htag
      cases htag
    · rw [if_pos htag]
  | anonymous => simp [splitRedisPayload, WireForm.wire, WireForm.sender]
  | sent sender =>
    have hraw : (sender ++ "/" ++ payload).toList = sender.toList ++ '/' :: payload.toList := by simp
    rw [WireForm.wire, splitRedisPayload_plain hform htag hraw, String.ofList_toList, WireForm.sender]

/-! ## Delivery -/

/-- A node delivers what another one, or none, sent: an object or array as its text, a scalar as the
string of its text. -/
theorem handleMessage_wireForm {id : String} {form : WireForm} (hform : form.Plain)
    (hother : form.sender ≠ id ∨ id = "") {payload : String} (htag : hasTag payload.toList = true) :
    handleMessage id (form.wire payload) =
      match payload.toList with
      | 'o' :: ':' :: body =>
        if (Json.parse (String.ofList body)).isSome then some (String.ofList body)
        else some (Json.render (.str (String.ofList body)))
      | _ :: _ :: body => some (Json.render (.str (String.ofList body)))
      | _ => none := by
  have hnot : ¬ (form.sender ≠ "" ∧ form.sender = id) := by
    rintro ⟨hne, heq⟩
    rcases hother with h | h
    · exact h heq
    · exact hne (heq.trans h)
  have htags : (∃ body, payload.toList = 'o' :: ':' :: body) ∨ ∃ body, payload.toList = 's' :: ':' :: body := by
    simp only [hasTag, Bool.or_eq_true, List.isPrefixOf_iff_prefix] at htag
    rcases htag with ⟨body, hb⟩ | ⟨body, hb⟩
    · exact Or.inl ⟨body, hb.symm⟩
    · exact Or.inr ⟨body, hb.symm⟩
  unfold handleMessage
  rw [splitRedisPayload_wireForm hform htag]
  simp only [hnot, if_false]
  rcases htags with ⟨body, hb⟩ | ⟨body, hb⟩
  · simp [hb]
  · simp [hb]

/-- A node drops what it sent itself. -/
theorem handleMessage_sent_own {id : String} (hid : PlainID id) {payload : String}
    (htag : hasTag payload.toList = true) : handleMessage id ((WireForm.sent id).wire payload) = none := by
  have hform : (WireForm.sent id).Plain := hid
  simp [handleMessage, splitRedisPayload_wireForm hform htag, WireForm.sender, hid.nonempty]

/-- For every own id and every sender with another plain id: any JSON text behind `o:` that is nested within
the limit is delivered as it is, and any string behind `s:` as a JSON string that decodes to it, in all
three forms and once; what comes back from the own id, when it is plain, is not delivered. -/
theorem payload_delivered {id sender : String} (hne : sender ≠ "") (hother : sender ≠ id)
    (hslash : '/' ∉ sender.toList) (htag : hasTag sender.toList = false) {form : WireForm}
    (hform : form = .bare ∨ form = .anonymous ∨ form = .sent sender) (j v : String) (hj : (Json.parse j).isSome) :
    handleMessage id (form.wire ("o:" ++ j)) = some j ∧
      (∃ text, handleMessage id (form.wire ("s:" ++ v)) = some text ∧ Json.parse text = some (.str v)) ∧
      (id ≠ "" → '/' ∉ id.toList → hasTag id.toList = false →
        handleMessage id (id ++ "/o:" ++ j) = none ∧ handleMessage id (id ++ "/s:" ++ v) = none) := by
  have hplain : form.Plain ∧ (form.sender ≠ id ∨ id = "") := by
    rcases hform with rfl | rfl | rfl
    · exact ⟨trivial, (eq_or_ne id "").symm.imp_left Ne.symm⟩
    · exact ⟨trivial, (eq_or_ne id "").symm.imp_left Ne.symm⟩
    · exact ⟨plainID_of hne hslash htag, Or.inl hother⟩
  have ho : hasTag ("o:" ++ j).toList = true := hasTag_toList_append rfl j
  have hs : hasTag ("s:" ++ v).toList = true := hasTag_toList_append rfl v
  refine ⟨?_, ⟨Json.render (.str v), ?_, Json.parse_render_str v⟩, fun hne' hslash' htag' => ?_⟩
  · rw [handleMessage_wireForm hplain.1 hplain.2 ho]
    simp [hj]
  · rw [handleMessage_wireForm hplain.1 hplain.2 hs]
    simp
  · have hown : ∀ payload : String, hasTag payload.toList = true →
        handleMessage id ((WireForm.sent id).wire payload) = none :=
      fun _ => handleMessage_sent_own (plainID_of hne' hslash' htag')
    have hassoc : ∀ tail body : String, id ++ ("/" ++ tail) ++ body = (WireForm.sent id).wire (tail ++ body) :=
      fun tail body => by simp only [WireForm.wire, String.append_assoc]
    exact ⟨by rw [show "/o:" = "/" ++ "o:" from rfl, hassoc]; exact hown _ ho,
      by rw [show "/s:" = "/" ++ "s:" from rfl, hassoc]; exact hown _ hs⟩

/-- A payload with a tag behind a slash. -/
def sampleText : String := "[\"/o:\"]"

theorem payload_delivered_sample :
    handleMessage "node-1" ((WireForm.sent "node-2").wire ("o:" ++ sampleText)) = some sampleText ∧
      (∃ text, handleMessage "node-1" ((WireForm.sent "node-2").wire ("s:" ++ "node-1/o:")) = some text ∧
        Json.parse text = some (.str "node-1/o:")) ∧
      handleMessage "node-1" ("node-1" ++ "/o:" ++ sampleText) = none ∧
        handleMessage "node-1" ("node-1" ++ "/s:" ++ "node-1/o:") = none := by
  have hne : "node-2" ≠ "" ∧ "node-2" ≠ "node-1" := by decide
  have hslash : '/' ∉ "node-2".toList := by decide
  obtain ⟨ho, hs, hown⟩ := payload_delivered hne.1 hne.2 hslash (by decide) (Or.inr (Or.inr rfl)) sampleText
    "node-1/o:" (by decide +kernel)
  exact ⟨ho, hs, hown (by decide) (by decide) (by decide)⟩

/-! ## Texts nested too deeply -/

/-- An empty array in `n` arrays. -/
def nestedArray : ℕ → Json
  | 0 => .arr []
  | n + 1 => .arr [nestedArray n]

/-- The text of a nested array. -/
def nestedText (n : ℕ) : String := String.ofList (List.replicate (n + 1) '[' ++ List.replicate (n + 1) ']')

theorem depth_nestedArray (n : ℕ) : (nestedArray n).depth = n + 1 := by
  induction n with
  | zero => rfl
  | succ n ih => simp [nestedArray, Json.depth, Json.depthItems, ih]

theorem writable_nestedArray (n : ℕ) : Json.Writable (nestedArray n) := by
  induction n with
  | zero => exact .arr (List.forall_mem_nil _)
  | succ n ih => exact .arr (List.forall_mem_singleton.2 ih)

theorem writeValue_nestedArray (escape : Char → List Char) (n : ℕ) :
    Json.writeValue escape (nestedArray n) = List.replicate (n + 1) '[' ++ List.replicate (n + 1) ']' := by
  induction n with
  | zero => rfl
  | succ n ih =>
    rw [List.replicate_succ' (n := n + 1) (a := ']')]
    simp [nestedArray, Json.writeValue, Json.writeItems, ih, List.replicate_succ]

theorem read_nestedText (n : ℕ) : Json.read (nestedText n) = some (nestedArray n) := by
  have hread := Json.read_stringify (writable_nestedArray n)
  rwa [Json.stringify, writeValue_nestedArray] at hread

/-- An array text nested over the limit is no JSON to `json.Valid`. -/
theorem parse_nestedText {n : ℕ} (h : Json.maxNestingDepth ≤ n) : Json.parse (nestedText n) = none := by
  rw [Json.parse, read_nestedText, Option.filter_some, depth_nestedArray, if_neg]
  simp only [decide_eq_true_eq]
  omega

/-- The text of 10001 nested arrays is JSON, and is delivered as the string of it instead. -/
theorem deep_text_quoted :
    (∃ items, Json.read (nestedText 10000) = some (.arr items)) ∧
      handleMessage "node-1" (WireForm.bare.wire ("o:" ++ nestedText 10000)) =
        some (Json.render (.str (nestedText 10000))) ∧
      Json.render (.str (nestedText 10000)) ≠ nestedText 10000 := by
  have htag : hasTag ("o:" ++ nestedText 10000).toList = true := hasTag_toList_append rfl _
  have hparse : Json.parse (nestedText 10000) = none := parse_nestedText le_rfl
  refine ⟨⟨[nestedArray 9999], read_nestedText 10000⟩, ?_, fun heq => ?_⟩
  · rw [handleMessage_wireForm (show WireForm.bare.Plain from trivial) (Or.inl (by decide)) htag]
    simp [hparse]
  · -- one reads as a string, the other as an array
    have hstr := Json.parse_render_str (nestedText 10000)
    rw [heq, hparse] at hstr
    cases hstr

end NodejsHelper
