import GreaterWill.Engine.Retry
import GreaterWill.Lib.Keywords
import GreaterWill.Lib.TextLemmas

/-!
# Errors in the pane

`ErrorClass::from_pane_output`: the last ten lines of a pane, if one of them begins like an error,
are classified by their keywords, and by numbers of HTTP statuses that stand with an anchor. Most
of the anchors never decide: the keywords before them occur wherever they do (`PANE_KEYWORDS`,
`fromPaneOutput_eq_classify`).
-/

namespace GreaterWill

open Keywords

namespace ErrorClass

def BILLING : List String :=
  ["billing", "payment required", "payment_required", "insufficient funds",
    "subscription expired"]

def AUTH : List String :=
  ["authentication_error", "invalid_api_key", "invalid api key", "api key expired",
    "unauthorized", "token expired", "not authenticated"]

def PERMISSION : List String :=
  ["permission denied", "permission_error", "not permitted", "access denied"]

def PLAN_NOT_FOUND : List String :=
  ["plan not found", "plan file not found", "plan does not exist"]

def PLUGIN_MISSING : List String :=
  ["plugin not found", "plugin not installed", "skill not found"]

def NETWORK : List String :=
  ["connection_error", "network error", "connection refused", "connection reset",
    "connection timed out", "dns resolution failed", "econnrefused", "econnreset", "etimedout"]

def OVERLOAD : List String :=
  ["overloaded_error", "overloaded", "api is overloaded", "server_error"]

def RATE_LIMIT : List String :=
  ["rate_limit_error", "rate_limit", "rate limit", "rate-limit", "too many requests"]

def TOO_LARGE : List String :=
  ["request too large", "request_too_large", "payload too large", "content too long"]

def SERVICE_UNAVAILABLE : List String :=
  ["bad gateway", "bad_gateway", "service unavailable", "service_unavailable"]

/-- The number of an HTTP status, which counts with one of the anchors. -/
structure AnchoredCode where
  code : String
  anchors : List String
  errorClass : ErrorClass

def ANCHORED_CODES : List AnchoredCode := [
  { code := "500"
    anchors := ["api_error", "internal server error", "internal_server_error", "server error",
      "status code", "http error"]
    errorClass := .apiOverload },
  { code := "429"
    anchors := ["rate_limit", "rate limit", "too many requests", "status code", "http error"]
    errorClass := .apiOverload },
  { code := "529"
    anchors := ["overloaded", "overloaded_error", "status code", "http error"]
    errorClass := .apiOverload },
  { code := "502"
    anchors := ["bad gateway", "bad_gateway", "status code", "http error"]
    errorClass := .apiOverload },
  { code := "503"
    anchors := ["service unavailable", "service_unavailable", "status code", "http error"]
    errorClass := .apiOverload },
  { code := "413"
    anchors := ["request too large", "payload too large", "content too long", "status code",
      "http error"]
    errorClass := .requestTooLarge }]

def containsAny (text : List Char) (keywords : List String) : Bool :=
  keywords.any fun k => Text.contains text k.toList

/-- The last ten lines of the output, in lower case. -/
def paneTail (toLowercase : List Char → List Char) (output : String) : List Char :=
  toLowercase
    (['\n'].intercalate (((Text.lines output.toList).reverse.take 10).reverse))

/-- Whether a line begins like an error. -/
def hasErrorContext (tail : List Char) : Bool :=
  (Text.lines tail).any fun line =>
    let trimmed := Text.trim line
    ["error:", "error ", "fatal:", "fatal ", "exception:", "exception ", "failed"].any
      (fun start => start.toList.isPrefixOf trimmed) || Text.contains trimmed ['❌']

/-- Classify error patterns found in pane output. -/
def fromPaneOutput (toLowercase : List Char → List Char) (output : String) (runtime : Bool) :
    Option ErrorClass :=
  let tail := paneTail toLowercase output
  if !hasErrorContext tail then none
  else if containsAny tail BILLING then some .authError
  else if containsAny tail AUTH then some .authError
  else if containsAny tail PERMISSION then some .permissionBlocked
  -- the plan and the plugins are loaded by the time the session runs
  else if !runtime && containsAny tail PLAN_NOT_FOUND then some .bootstrapError
  else if !runtime && containsAny tail PLUGIN_MISSING then some .bootstrapError
  else if containsAny tail NETWORK then some .networkError
  else if containsAny tail OVERLOAD then some .apiOverload
  else if containsAny tail RATE_LIMIT then some .apiOverload
  else if containsAny tail TOO_LARGE then some .requestTooLarge
  else if containsAny tail SERVICE_UNAVAILABLE then some .apiOverload
  else
    ANCHORED_CODES.findSome? fun anchored =>
      if Text.contains tail anchored.code.toList && containsAny tail anchored.anchors then
        some anchored.errorClass
      else none

/-! ## The table behind the rules -/

/-- An entry of keywords any of which will do. -/
def anyOf (keywords : List String) (c : ErrorClass) : Entry Char ErrorClass where
  sets := keywords.map fun k => [k.toList]
  label := c

/-- An entry of a number with one of its anchors. -/
def AnchoredCode.entry (anchored : AnchoredCode) : Entry Char ErrorClass where
  sets := anchored.anchors.map fun anchor => [anchored.code.toList, anchor.toList]
  label := anchored.errorClass

/-- The rules before those for the service. -/
def sessionRules (runtime : Bool) : List (Entry Char ErrorClass) :=
  [anyOf BILLING .authError, anyOf AUTH .authError, anyOf PERMISSION .permissionBlocked] ++
    (if runtime then []
      else [anyOf PLAN_NOT_FOUND .bootstrapError, anyOf PLUGIN_MISSING .bootstrapError]) ++
    [anyOf NETWORK .networkError]

/-- The rules for the service, as they stand. -/
def serviceRules : List (Entry Char ErrorClass) :=
  [anyOf OVERLOAD .apiOverload, anyOf RATE_LIMIT .apiOverload, anyOf TOO_LARGE .requestTooLarge,
    anyOf SERVICE_UNAVAILABLE .apiOverload] ++ ANCHORED_CODES.map (·.entry)

/-- The anchors that decide for every number. -/
def HTTP_ANCHORS : List String := ["status code", "http error"]

/-- The rules for the service that decide. -/
def LIVE_SERVICE_RULES : List (Entry Char ErrorClass) :=
  [anyOf ["overloaded", "server_error"] .apiOverload,
    anyOf ["rate_limit", "rate limit", "rate-limit", "too many requests"] .apiOverload,
    anyOf TOO_LARGE .requestTooLarge, anyOf SERVICE_UNAVAILABLE .apiOverload,
    AnchoredCode.entry ⟨"500", "api_error" :: "server error" :: HTTP_ANCHORS, .apiOverload⟩,
    AnchoredCode.entry ⟨"429", HTTP_ANCHORS, .apiOverload⟩,
    AnchoredCode.entry ⟨"529", HTTP_ANCHORS, .apiOverload⟩,
    AnchoredCode.entry ⟨"502", HTTP_ANCHORS, .apiOverload⟩,
    AnchoredCode.entry ⟨"503", HTTP_ANCHORS, .apiOverload⟩,
    AnchoredCode.entry ⟨"413", HTTP_ANCHORS, .requestTooLarge⟩]

theorem trims_serviceRules : Trims [] serviceRules LIVE_SERVICE_RULES := by
  simp only [serviceRules, LIVE_SERVICE_RULES, anyOf, AnchoredCode.entry, ANCHORED_CODES,
    HTTP_ANCHORS, OVERLOAD, RATE_LIMIT, TOO_LARGE, SERVICE_UNAVAILABLE, List.map_cons,
    List.map_nil, List.cons_append, List.nil_append, String.reduceToList]
  decide +kernel

section
variable {text : List Char} {keywords : List String} {c : ErrorClass}

theorem meets_anyOf_iff : (anyOf keywords c).Meets text ↔ containsAny text keywords = true := by
  simp [Entry.Meets, anyOf, containsAny, Text.contains_iff]

theorem AnchoredCode.meets_entry_iff {anchored : AnchoredCode} : anchored.entry.Meets text ↔
    (Text.contains text anchored.code.toList && containsAny text anchored.anchors) = true := by
  simp only [Entry.Meets, AnchoredCode.entry, containsAny, Text.contains_iff,
    Bool.and_eq_true, List.any_eq_true, List.mem_map]
  constructor
  · intro h
    obtain ⟨_, ⟨anchor, hanchor, rfl⟩, hoccurs⟩ := h
    rw [occurs_pair] at hoccurs
    exact ⟨hoccurs.1, anchor, hanchor, hoccurs.2⟩
  · intro h
    obtain ⟨hcode, anchor, hanchor, hoccurs⟩ := h
    exact ⟨_, ⟨anchor, hanchor, rfl⟩, occurs_pair.mpr ⟨hcode, hoccurs⟩⟩

theorem classify_anyOf (t : List (Entry Char ErrorClass)) : classify text (anyOf keywords c :: t) =
    if containsAny text keywords then some c else classify text t := by
  rw [classify_cons]
  simp only [meets_anyOf_iff]
  rfl

theorem classify_anchored (text : List Char) (codes : List AnchoredCode) :
    classify text (codes.map (·.entry)) = codes.findSome? fun anchored =>
      if Text.contains text anchored.code.toList && containsAny text anchored.anchors then
        some anchored.errorClass
      else none := by
  induction codes with
  | nil => rfl
  | cons anchored codes ih =>
    rw [List.map_cons, classify_cons, List.findSome?_cons, ih]
    simp only [AnchoredCode.meets_entry_iff]
    split
    · rfl
    · rfl

end

/-- The rules of the source as one table. -/
theorem fromPaneOutput_eq_rules (toLowercase : List Char → List Char) (output : String)
    (runtime : Bool) :
    fromPaneOutput toLowercase output runtime =
      if hasErrorContext (paneTail toLowercase output) then
        classify (paneTail toLowercase output) (sessionRules runtime ++ serviceRules)
      else none := by
  unfold fromPaneOutput
  dsimp only
  generalize paneTail toLowercase output = tail
  cases hasErrorContext tail with
  | false => rfl
  | true =>
    cases runtime with
    | true =>
      simp [sessionRules, serviceRules, classify_anyOf, classify_anchored]
    | false =>
      simp [sessionRules, serviceRules, classify_anyOf, classify_anchored]

/-- The text has a line that begins like an error, and keywords that decide for the class. -/
structure Shows (runtime : Bool) (tail : List Char) (c : ErrorClass) : Prop where
  context : hasErrorContext tail = true
  keywords : ∃ e ∈ sessionRules runtime ++ LIVE_SERVICE_RULES, e.label = c ∧ e.Meets tail

theorem shows_of_fromPaneOutput {toLowercase : List Char → List Char} {output : String}
    {runtime : Bool} {c : ErrorClass} (h : fromPaneOutput toLowercase output runtime = some c) :
    Shows runtime (paneTail toLowercase output) c := by
  rw [fromPaneOutput_eq_rules, classify_of_trims (trims_serviceRules.append_left _ [])
    (List.forall_mem_nil _)] at h
  split at h
  · next hcontext => exact ⟨hcontext, exists_of_classify h⟩
  · cases h

/-- The errors of a start are not told while the session runs. -/
theorem label_ne_bootstrapError :
    ∀ e ∈ sessionRules true ++ LIVE_SERVICE_RULES, e.label ≠ .bootstrapError := by
  decide

/-- **Most anchors never decide.** An error in the pane is told by the keywords, by `500` with
`api_error` or `server error`, and by any of the numbers with `status code` or `http error`; and a
running session is told apart from a starting one by the errors of the start only. -/
theorem fromPaneOutput_eq_classify (toLowercase : List Char → List Char) (output : String) :
    (∀ runtime, fromPaneOutput toLowercase output runtime =
      if hasErrorContext (paneTail toLowercase output) then
        classify (paneTail toLowercase output) (sessionRules runtime ++ LIVE_SERVICE_RULES)
      else none) ∧
    fromPaneOutput toLowercase output true ≠ some .bootstrapError ∧
    ∀ c, c ≠ .bootstrapError → fromPaneOutput toLowercase output false = some c →
      fromPaneOutput toLowercase output true = some c := by
  refine ⟨?_, ?_, ?_⟩
  · intro runtime
    rw [fromPaneOutput_eq_rules, classify_of_trims (trims_serviceRules.append_left _ [])
      (List.forall_mem_nil _)]
  · intro h
    obtain ⟨e, he, hlabel, -⟩ := (shows_of_fromPaneOutput h).keywords
    exact label_ne_bootstrapError e he hlabel
  · intro c hc h
    unfold fromPaneOutput at h ⊢
    dsimp only at h ⊢
    generalize paneTail toLowercase output = tail at h ⊢
    simp only [Bool.not_false, Bool.true_and, Bool.not_true, Bool.false_and] at h ⊢
    grind

end ErrorClass

end GreaterWill
