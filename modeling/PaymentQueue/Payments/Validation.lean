import Mathlib.Data.Rat.Defs
import PaymentQueue.Payments.Service

/-!
# Validation of a payment request

`validateCreatePaymentInput` of `payment.service.ts`, on everything that a
parsed body may hold.  How the engine reads a date string is not fixed by the
source and is a parameter.
-/

namespace PaymentQueue

/-- A `Date` object.  Its time value is absent when the date is invalid and
otherwise within the range of dates. -/
structure Date where
  time : Option Int
  inRange : ∀ value ∈ time, value.natAbs ≤ 8640000000000000
  deriving DecidableEq

namespace Date

/-- `new Date(NaN)`. -/
def invalid : Date := ⟨none, nofun⟩

/-- `new Date(value)` of a number: values out of range make it invalid. -/
def ofTime (value : Int) : Date :=
  if inside : value.natAbs ≤ 8640000000000000 then
    ⟨some value, by
      intro found same
      cases same
      exact inside⟩
  else invalid

/-- A valid date is rebuilt from its time value. -/
theorem ofTime_time {date : Date} {value : Int}
    (valid : date.time = some value) : ofTime value = date := by
  obtain ⟨time, inRange⟩ := date
  cases valid
  exact dif_pos (inRange value rfl)

end Date

/-- The values that a request body may hold.  A finite number is its exact
value; `nonFinite` stands for the infinities and `NaN`. -/
inductive JsValue where
  | undefined
  | null
  | boolean (value : Bool)
  | number (value : ℚ)
  | nonFinite
  | string (value : String)
  | array (items : List JsValue)
  | object (fields : List (String × JsValue))
  | date (value : Date)

namespace JsValue

/-- `value[name]`. -/
def property (name : String) : JsValue → JsValue
  | object fields => (fields.lookup name).getD undefined
  | _ => undefined

/-- `value ?? fallback`. -/
def orElse (value fallback : JsValue) : JsValue :=
  match value with
  | undefined => fallback
  | null => fallback
  | value => value

/-- The number, when `Number.isInteger` holds of it. -/
def integer? : JsValue → Option Int
  | number value => if value.den = 1 then some value.num else none
  | _ => none

def ofInt (value : Int) : JsValue := number value

@[simp] theorem orElse_string (fallback : JsValue) (text : String) :
    (string text).orElse fallback = string text := rfl

@[simp] theorem orElse_ofInt (fallback : JsValue) (value : Int) :
    (ofInt value).orElse fallback = ofInt value := by
  simp [ofInt, orElse]

@[simp] theorem integer?_ofInt (value : Int) :
    (ofInt value).integer? = some value := by
  simp [ofInt, integer?]

end JsValue

/-- A `Date` object is plain in this sense, too. -/
def isPlainObject : JsValue → Bool
  | .object _ => true
  | .date _ => true
  | _ => false

/-- `text.length`: a character above the basic plane is two code units. -/
def utf16Length (text : String) : Nat :=
  text.toList.length +
    text.toList.countP fun character => decide (0x10000 ≤ character.toNat)

/-- `/^[A-Z]{3}$/`. -/
def isCurrencyCode (text : String) : Bool :=
  decide (text.toList.length = 3) &&
    text.toList.all fun letter => decide ('A' ≤ letter ∧ letter ≤ 'Z')

/-- `PAYMENT_PRIORITIES`, with the values they stand for. -/
def paymentPriorities : List (String × PaymentPriority) :=
  [("high", .high), ("normal", .normal), ("low", .low)]

def PaymentPriority.text : PaymentPriority → String
  | .high => "high"
  | .normal => "normal"
  | .low => "low"

/-- What the validation returns: the fields of `CreatePaymentInput` that it
sets. -/
structure ValidatedInput where
  id : String
  amount : Int
  currency : String
  customerId : String
  gatewayId : String
  priority : PaymentPriority
  maxRetries : Int
  metadata : JsValue
  scheduledAt : Option Date
  delayMs : Option Int

/-- The returned object; a field that is not set reads as `undefined`. -/
def ValidatedInput.toValue (input : ValidatedInput) : JsValue :=
  .object [
    ("id", .string input.id),
    ("amount", .ofInt input.amount),
    ("currency", .string input.currency),
    ("customerId", .string input.customerId),
    ("gatewayId", .string input.gatewayId),
    ("priority", .string input.priority.text),
    ("maxRetries", .ofInt input.maxRetries),
    ("metadata", input.metadata),
    ("scheduledAt", (input.scheduledAt.map JsValue.date).getD .undefined),
    ("delayMs", (input.delayMs.map JsValue.ofInt).getD .undefined)]

/-- The input of `PaymentService.submit`, in the correlation context of the
request.  Times before the epoch are past at every clock value, like the epoch
itself. -/
def ValidatedInput.toInput (input : ValidatedInput)
    (correlationId : Option String) : CreatePaymentInput :=
  { id := input.id
    amount := input.amount.toNat
    currency := input.currency
    customerId := input.customerId
    gatewayId := input.gatewayId
    priority := some input.priority
    maxRetries := some input.maxRetries.toNat
    scheduledAt := (input.scheduledAt.bind Date.time).map Int.toNat
    delayMs := input.delayMs.map Int.toNat
    correlationId }

namespace Validation

/-- `if (...) throw new BadRequestException(message)` around the reading of a
value. -/
def demand {α : Type} (message : String) : Option α → Except Thrown α
  | some value => .ok value
  | none => .error (.badRequest message)

/-- The same around a condition. -/
def ensure (message : String) (condition : Bool) : Except Thrown Unit :=
  if condition then .ok () else .error (.badRequest message)

def readObject (value : JsValue) : Option JsValue :=
  if isPlainObject value then some value else none

/-- A non-empty string, of at most `limit` code units where one is given. -/
def readText (limit : Option Nat) : JsValue → Option String
  | .string text =>
      if 0 < utf16Length text ∧ ∀ most ∈ limit, utf16Length text ≤ most then
        some text
      else none
  | _ => none

def readInteger (admits : Int → Bool) (value : JsValue) : Option Int :=
  value.integer?.filter admits

def readCurrency : JsValue → Option String
  | .string text => if isCurrencyCode text then some text else none
  | _ => none

def readPriority : JsValue → Option PaymentPriority
  | .string text => paymentPriorities.lookup text
  | _ => none

def readMetadata : JsValue → Option JsValue
  | .undefined => some (.object [])
  | value => readObject value

/-- `scheduledAt` is absent, a string or a `Date`; the date that is made of
it. -/
def readScheduledAt (parse : String → Date) : JsValue → Option (Option Date)
  | .undefined => some none
  | .string text => some (some (parse text))
  | .date date => some (some date)
  | _ => none

def readDelay : JsValue → Option (Option Int)
  | .undefined => some none
  | value => (readInteger (fun delay => decide (0 ≤ delay)) value).map some

/-- The time value of the requested date, unless it is `NaN`. -/
def validTime : Option Date → Option (Option Int)
  | none => some none
  | some date => date.time.map some

end Validation

open Validation in
/-- Validates an inbound payment request; every failure is answered with a
400. -/
def validateCreatePaymentInput (parse : String → Date) (now : Time)
    (raw : JsValue) : Except Thrown ValidatedInput := do
  let body ← demand "body must be a JSON object" (readObject raw)
  let id ← demand "id must be a non-empty string (<= 100 chars)"
    (readText (some 100) (body.property "id"))
  let amount ← demand
    "amount must be a positive integer (minor currency unit)"
    (readInteger (fun amount => decide (0 < amount)) (body.property "amount"))
  let currency ← demand "currency must be a 3-letter ISO code"
    (readCurrency (body.property "currency"))
  let customerId ← demand "customerId must be a non-empty string"
    (readText none (body.property "customerId"))
  let gatewayId ← demand "gatewayId must be a non-empty string (<= 100 chars)"
    (readText (some 100) (body.property "gatewayId"))
  let priority ← demand "priority must be one of high, normal, low"
    (readPriority ((body.property "priority").orElse (.string "normal")))
  let maxRetries ← demand "maxRetries must be an integer between 0 and 10"
    (readInteger (fun retries => decide (0 ≤ retries ∧ retries ≤ 10))
      ((body.property "maxRetries").orElse (.ofInt defaultMaxRetries)))
  let metadata ← demand "metadata must be an object"
    (readMetadata (body.property "metadata"))
  let requested ← demand "scheduledAt must be an ISO-8601 date string"
    (readScheduledAt parse (body.property "scheduledAt"))
  let delayMs ← demand "delayMs must be a non-negative integer"
    (readDelay (body.property "delayMs"))
  ensure "provide either scheduledAt or delayMs, not both"
    (requested.isNone || delayMs.isNone)
  let scheduledAt ← demand "scheduledAt must be a valid ISO-8601 date string"
    (validTime requested)
  ensure "scheduledAt is too far in the future"
    (scheduledAt.all fun time : Int =>
      decide (time - now ≤ PaymentService.maxDelayMs))
  ensure "delayMs is too large"
    (delayMs.all fun delay : Int => decide (delay ≤ PaymentService.maxDelayMs))
  return {
    id, amount, currency, customerId, gatewayId, priority, maxRetries,
    metadata, scheduledAt := scheduledAt.map .ofTime, delayMs }

/-- The requests that the validation returns at this clock value. -/
structure ValidatedInput.Accepted (now : Time) (input : ValidatedInput) :
    Prop where
  id : 0 < utf16Length input.id ∧ utf16Length input.id ≤ 100
  amount : 0 < input.amount
  currency : isCurrencyCode input.currency = true
  customerId : 0 < utf16Length input.customerId
  gatewayId : 0 < utf16Length input.gatewayId ∧
    utf16Length input.gatewayId ≤ 100
  maxRetries : 0 ≤ input.maxRetries ∧ input.maxRetries ≤ 10
  metadata : isPlainObject input.metadata = true
  scheduledAt : ∀ date ∈ input.scheduledAt, ∃ time, date.time = some time ∧
    time - now ≤ PaymentService.maxDelayMs
  delayMs : ∀ delay ∈ input.delayMs, 0 ≤ delay ∧
    delay ≤ PaymentService.maxDelayMs
  exclusive : input.scheduledAt = none ∨ input.delayMs = none

namespace Validation

section Results

variable {α β : Type} {message : String}

private theorem bind_eq_ok_iff {first : Except Thrown α}
    {next : α → Except Thrown β}
    {value : β} :
    (first >>= next) = .ok value ↔
      ∃ middle, first = .ok middle ∧ next middle = .ok value := by
  cases first with
  | error error => exact ⟨nofun, nofun⟩
  | ok middle =>
      constructor
      · exact fun same => ⟨middle, rfl, same⟩
      · rintro ⟨_, ⟨⟩, same⟩
        exact same

@[simp] theorem demand_eq_ok_iff {read : Option α} {value : α} :
    demand message read = .ok value ↔ read = some value := by
  cases read <;> simp [demand]

@[simp] theorem ensure_eq_ok_iff {condition : Bool} {value : Unit} :
    ensure message condition = .ok value ↔ condition = true := by
  cases condition <;> simp [ensure]

/-- Nothing but a 400 is thrown. -/
def Rejects (result : Except Thrown α) : Prop :=
  ∀ error, result = .error error → ∃ message, error = .badRequest message

theorem rejects_ok (value : α) :
    Rejects (Except.ok value : Except Thrown α) :=
  nofun

theorem rejects_demand (read : Option α) : Rejects (demand message read) := by
  cases read with
  | some value => exact rejects_ok value
  | none =>
      rintro error ⟨⟩
      exact ⟨message, rfl⟩

theorem rejects_ensure (condition : Bool) :
    Rejects (ensure message condition) := by
  cases condition with
  | true => exact rejects_ok ()
  | false =>
      rintro error ⟨⟩
      exact ⟨message, rfl⟩

theorem Rejects.bind {first : Except Thrown α} {next : α → Except Thrown β}
    (rejects : Rejects first) (rest : ∀ value, Rejects (next value)) :
    Rejects (first >>= next) := by
  cases first with
  | error error =>
      rintro _ ⟨⟩
      exact rejects error rfl
  | ok value => exact rest value

end Results

section Readings

variable {value : JsValue} {text : String} {limit : Option Nat}
  {admits : Int → Bool}

theorem readText_string_iff :
    readText limit (.string text) = some text ↔
      0 < utf16Length text ∧ ∀ most ∈ limit, utf16Length text ≤ most := by
  simp [readText]

theorem of_readText (found : readText limit value = some text) :
    0 < utf16Length text ∧ ∀ most ∈ limit, utf16Length text ≤ most := by
  cases value with
  | string given =>
      simp only [readText, Option.ite_none_right_eq_some, Option.some.injEq]
        at found
      rw [← found.2]
      exact found.1
  | _ => cases found

@[simp] theorem readInteger_ofInt_iff {number : Int} :
    readInteger admits (.ofInt number) = some number ↔
      admits number = true := by
  simp [readInteger, Option.filter]

theorem of_readInteger {number : Int}
    (found : readInteger admits value = some number) :
    admits number = true := by
  exact (Option.filter_eq_some_iff.mp found).2

@[simp] theorem readCurrency_string_iff :
    readCurrency (.string text) = some text ↔ isCurrencyCode text = true := by
  simp [readCurrency]

private theorem of_readCurrency (found : readCurrency value = some text) :
    isCurrencyCode text = true := by
  cases value with
  | string given =>
      simp only [readCurrency, Option.ite_none_right_eq_some,
        Option.some.injEq] at found
      rw [← found.2]
      exact found.1
  | _ => cases found

@[simp] theorem readPriority_text (priority : PaymentPriority) :
    readPriority (.string priority.text) = some priority := by
  cases priority <;> rfl

theorem readObject_eq_some_iff {found : JsValue} :
    readObject value = some found ↔
      isPlainObject value = true ∧ value = found := by
  simp [readObject]

private theorem isPlainObject_of_readMetadata {found : JsValue}
    (read : readMetadata value = some found) : isPlainObject found = true := by
  cases value with
  | undefined =>
      cases read
      rfl
  | _ =>
      obtain ⟨plain, rfl⟩ := readObject_eq_some_iff.mp read
      exact plain

private theorem readMetadata_self (plain : isPlainObject value = true) :
    readMetadata value = some value := by
  cases value with
  | undefined => cases plain
  | _ => exact readObject_eq_some_iff.mpr ⟨plain, rfl⟩

private theorem readScheduledAt_date (parse : String → Date)
    (date : Option Date) :
    readScheduledAt parse ((date.map JsValue.date).getD .undefined) =
      some date := by
  cases date <;> rfl

private theorem nonnegative_of_readDelay {delay : Int}
    (read : readDelay value = some (some delay)) : 0 ≤ delay := by
  revert read
  fun_cases readDelay value with
  | case1 => exact nofun
  | case2 =>
      intro read
      obtain ⟨number, found, same⟩ := Option.map_eq_some_iff.mp read
      cases same
      exact of_decide_eq_true (of_readInteger found)

private theorem readDelay_ofInt {delayMs : Option Int}
    (nonnegative : ∀ delay ∈ delayMs, 0 ≤ delay) :
    readDelay ((delayMs.map JsValue.ofInt).getD .undefined) =
      some delayMs := by
  cases delayMs with
  | none => rfl
  | some delay =>
      have read : readInteger (fun delay => decide (0 ≤ delay))
          (.ofInt delay) = some delay :=
        readInteger_ofInt_iff.mpr (decide_eq_true (nonnegative delay rfl))
      exact congrArg (Option.map some) read

/-- A valid request names its date by its time value. -/
theorem of_validTime {requested : Option Date} {scheduledAt : Option Int}
    (valid : validTime requested = some scheduledAt) :
    scheduledAt.map Date.ofTime = requested ∧
      requested.bind Date.time = scheduledAt := by
  cases requested with
  | none =>
      cases valid
      exact ⟨rfl, rfl⟩
  | some date =>
      obtain ⟨time, found, rfl⟩ := Option.map_eq_some_iff.mp valid
      exact ⟨congrArg some (Date.ofTime_time found), found⟩

private theorem validTime_of_valid {requested : Option Date}
    (valid : ∀ date ∈ requested, ∃ time, date.time = some time) :
    validTime requested = some (requested.bind Date.time) := by
  cases requested with
  | none => rfl
  | some date =>
      obtain ⟨time, found⟩ := valid date rfl
      simp [validTime, found]

end Readings

variable {parse : String → Date} {now : Time} {raw : JsValue}
  {input : ValidatedInput}

theorem rejects_validate :
    Rejects (validateCreatePaymentInput parse now raw) := by
  refine (rejects_demand _).bind fun body => ?_
  refine (rejects_demand _).bind fun id => ?_
  refine (rejects_demand _).bind fun amount => ?_
  refine (rejects_demand _).bind fun currency => ?_
  refine (rejects_demand _).bind fun customerId => ?_
  refine (rejects_demand _).bind fun gatewayId => ?_
  refine (rejects_demand _).bind fun priority => ?_
  refine (rejects_demand _).bind fun maxRetries => ?_
  refine (rejects_demand _).bind fun metadata => ?_
  refine (rejects_demand _).bind fun requested => ?_
  refine (rejects_demand _).bind fun delayMs => ?_
  refine (rejects_ensure _).bind fun _ => ?_
  refine (rejects_demand _).bind fun scheduledAt => ?_
  refine (rejects_ensure _).bind fun _ => ?_
  refine (rejects_ensure _).bind fun _ => ?_
  exact rejects_ok _

theorem accepted_of_validate
    (returned : validateCreatePaymentInput parse now raw = .ok input) :
    input.Accepted now := by
  simp only [validateCreatePaymentInput, bind_eq_ok_iff, demand_eq_ok_iff,
    ensure_eq_ok_iff] at returned
  obtain ⟨body, -, id, readId, amount, readAmount, currency, readCurrency,
    customerId, readCustomer, gatewayId, readGateway, priority, -, maxRetries,
    readRetries, metadata, readMeta, requested, -, delayMs, readDelay, _,
    exclusive, scheduledAt, valid, _, near, _, small, same⟩ := returned
  cases same
  obtain ⟨rebuilt, times⟩ := of_validTime valid
  refine ⟨?_, ?_, of_readCurrency readCurrency, ?_, ?_, ?_,
    isPlainObject_of_readMetadata readMeta, ?_, ?_, ?_⟩
  · simpa using of_readText readId
  · simpa using of_readInteger readAmount
  · exact (of_readText readCustomer).1
  · simpa using of_readText readGateway
  · simpa using of_readInteger readRetries
  · intro date chosen
    obtain ⟨time, found, same⟩ := Option.map_eq_some_iff.mp chosen
    rw [rebuilt] at chosen
    refine ⟨time, ?_, ?_⟩
    · rw [← found, ← times, show requested = some date from chosen]
      rfl
    · simpa [found] using near
  · intro delay chosen
    obtain rfl : delayMs = some delay := chosen
    exact ⟨nonnegative_of_readDelay readDelay, by simpa using small⟩
  · rw [show (scheduledAt.map Date.ofTime) = requested from rebuilt]
    simpa using exclusive

/-- An accepted request is accepted again, as it is. -/
theorem validate_toValue (parse : String → Date)
    (accepted : input.Accepted now) :
    validateCreatePaymentInput parse now input.toValue = .ok input := by
  have valid : ∀ date ∈ input.scheduledAt, ∃ time, date.time = some time := by
    intro date chosen
    obtain ⟨time, found, -⟩ := accepted.scheduledAt date chosen
    exact ⟨time, found⟩
  have times := validTime_of_valid valid
  have priority :
      input.toValue.property "priority" = .string input.priority.text := rfl
  have maxRetries :
      input.toValue.property "maxRetries" = .ofInt input.maxRetries := rfl
  have metadata : input.toValue.property "metadata" = input.metadata := rfl
  simp only [validateCreatePaymentInput, bind_eq_ok_iff, demand_eq_ok_iff,
    ensure_eq_ok_iff]
  refine ⟨input.toValue, readObject_eq_some_iff.mpr ⟨rfl, rfl⟩,
    input.id, readText_string_iff.mpr (by simpa using accepted.id),
    input.amount, readInteger_ofInt_iff.mpr (by simpa using accepted.amount),
    input.currency, readCurrency_string_iff.mpr accepted.currency,
    input.customerId,
    readText_string_iff.mpr ⟨accepted.customerId, nofun⟩,
    input.gatewayId,
    readText_string_iff.mpr (by simpa using accepted.gatewayId),
    input.priority, by simp [priority],
    input.maxRetries, by simpa [maxRetries] using accepted.maxRetries,
    input.metadata,
    by simpa [metadata] using readMetadata_self accepted.metadata,
    input.scheduledAt, readScheduledAt_date parse input.scheduledAt,
    input.delayMs, readDelay_ofInt fun delay chosen =>
      (accepted.delayMs delay chosen).1,
    (), by simpa using accepted.exclusive, _, times, (), ?_, (), ?_, ?_⟩
  · refine (Option.all_eq_true _ _).mpr fun time chosen => ?_
    obtain ⟨date, given, found⟩ := Option.bind_eq_some_iff.mp chosen
    obtain ⟨time', same, near⟩ := accepted.scheduledAt date given
    obtain rfl := Option.some.inj (found.symm.trans same)
    exact decide_eq_true near
  · refine (Option.all_eq_true _ _).mpr fun delay chosen => ?_
    exact decide_eq_true (accepted.delayMs delay chosen).2
  · rw [(of_validTime times).1]
    rfl

end Validation

end PaymentQueue
