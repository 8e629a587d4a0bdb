import Adwf.Value.Fallible
import Adwf.Value.Json
import Adwf.Value.Text
import Mathlib.Data.List.Infix

/-!
# Reading the pages of a provider list

`request_value` with its retries, `_next_link` and `request_list_pages`.  The
method, the request headers and the time limit are the same for all requests of
one read; the transport answers by the number of requests sent before and the
address.
-/

namespace Adwf.Provider

open Fallible (bind_ok_iff)

/-- The standard library: `time.sleep` of a `Retry-After` text, which a NaN makes raise, and
the address with the `page` member of its query replaced. -/
structure Tools where
  sleeps : String → Bool
  withPage : String → String → String

/-- `strict_loads` of a response body. -/
inductive Body where
  | empty
  | malformed
  | json (value : Json)

structure HttpResponse where
  status : Int
  headers : List (String × String)
  body : Body

/-- What comes of one request: `TimeoutError` or `OSError`, or a response. -/
inductive Reply where
  | raised
  | response (response : HttpResponse)

abbrev Transport := Nat → String → Reply

/-- `TRANSIENT`. -/
def transientStatuses : List Int :=
  [429, 500, 502, 503, 504]

/-- `FATAL`. -/
def fatalStatuses : List Int :=
  [400, 401, 403, 404, 409, 412, 422]

/-! ## One request with its retries -/

/-- `200 <= response.status < 300`. -/
def HttpResponse.Succeeded (response : HttpResponse) : Prop :=
  200 ≤ response.status ∧ response.status < 300

instance (response : HttpResponse) : Decidable response.Succeeded :=
  inferInstanceAs (Decidable (_ ∧ _))

def HttpResponse.value (response : HttpResponse) : Except String Json :=
  match response.body with
  | .empty => .ok (.obj [])
  | .malformed => .error "PROVIDER_MALFORMED_JSON"
  | .json value => .ok value

def statusError (status : Int) : String :=
  "PROVIDER_HTTP_" ++ toString status

/-- The attempts that are left, the status of the last response, the requests sent before. -/
def attempts (tools : Tools) (transport : Transport) (url : String) :
    Nat → Option Int → Nat → Except String (Json × HttpResponse × Nat)
  | 0, last, _ => .error (last.elim "PROVIDER_HTTP_UNKNOWN" statusError)
  | remaining + 1, last, sent =>
      match transport sent url with
      | .raised =>
          if remaining = 0 then .error "PROVIDER_TIMEOUT_OR_NETWORK"
          else attempts tools transport url remaining last (sent + 1)
      | .response response =>
          if response.Succeeded then do
            let value ← response.value
            return (value, response, sent + 1)
          else if response.status ∈ fatalStatuses then .error (statusError response.status)
          else if response.status ∉ transientStatuses ∨ remaining = 0 then
            .error (statusError response.status)
          else if tools.sleeps ((response.headers.lookup "Retry-After").getD "0") then
            attempts tools transport url remaining (some response.status) (sent + 1)
          else .error "ValueError"

/-- `request_value`. -/
def requestValue (tools : Tools) (transport : Transport) (url : String) (maxAttempts : Int)
    (sent : Nat) : Except String (Json × HttpResponse × Nat) :=
  if maxAttempts < 1 ∨ 3 < maxAttempts then .error "PROVIDER_RETRY_BUDGET_INVALID"
  else attempts tools transport url maxAttempts.toNat none sent

/-! ## The next page -/

/-- `left[1:-1]` of the text before the first semicolon, if it stands in angle brackets. -/
def bracketed (part : List Char) : Option (List Char) :=
  let left := (Text.strip (String.ofList (part.takeWhile (· ≠ ';')))).toList
  if left.head? = some '<' ∧ left.getLast? = some '>' then some left.tail.dropLast else none

/-- The one spelling of the relation that is looked for. -/
def spelling : List Char :=
  "rel=\"next\"".toList

/-- The address that one piece of the header offers. -/
def offered (part : List Char) : Option (List Char) :=
  if Text.hasInfix spelling part then bracketed part else none

/-- `link.split(",")`. -/
def pieces (headers : List (String × String)) : List (List Char) :=
  ((headers.lookup "Link").getD "").toList.splitOn ','

/-- `headers.get("X-Next-Page", "").strip()`. -/
def nextPage (headers : List (String × String)) : String :=
  Text.strip ((headers.lookup "X-Next-Page").getD "")

/-- `_next_link`. -/
def nextLink (tools : Tools) (headers : List (String × String)) (current : String) :
    Option String :=
  match (pieces headers).findSome? offered with
  | some target => some (String.ofList target)
  | none =>
      if nextPage headers ≠ "" then some (tools.withPage current (nextPage headers)) else none

/-- `value.get(object_key) if object_key and isinstance(value, dict) else value`. -/
def pageOf (objectKey : Option String) (value : Json) : Json :=
  match objectKey, value with
  | some key, .obj fields => if key = "" then value else (fields.lookup key).getD .null
  | _, _ => value

/-- The members of an object. -/
def members? : Json → Option Fields
  | .obj fields => some fields
  | _ => none

/-- The objects of a list of objects. -/
def rows : Json → Option (List Fields)
  | .arr items => items.mapM members?
  | _ => none

/-- The loop of `request_list_pages`; the first argument is the number of pages left. -/
def readPages (tools : Tools) (transport : Transport) (objectKey : Option String) :
    Nat → List Fields → String → Nat → Except String (List Fields)
  | 0, _, _, _ => .error "PROVIDER_PAGINATION_BUDGET_EXCEEDED"
  | budget + 1, items, current, sent => do
      let (value, response, sent) ← requestValue tools transport current 2 sent
      match rows (pageOf objectKey value) with
      | none => .error "PROVIDER_PAGE_ITEMS_INVALID"
      | some page =>
          match nextLink tools response.headers current with
          | none => return items ++ page
          | some next =>
              if next = "" then return items ++ page
              else readPages tools transport objectKey budget (items ++ page) next sent

/-- `request_list_pages`. -/
def requestListPages (tools : Tools) (transport : Transport) (url : String) (maxPages : Int)
    (objectKey : Option String) : Except String (List Fields) :=
  if maxPages < 1 ∨ 100 < maxPages then .error "PROVIDER_PAGE_BUDGET_INVALID"
  else readPages tools transport objectKey maxPages.toNat [] url 0

section Request

variable {tools : Tools} {transport : Transport} {url : String} {sent after : Nat} {value : Json}
  {response : HttpResponse}

/-- What a request returns is one of the replies, and its status is a success. -/
theorem attempts_returns {remaining : Nat} {last : Option Int}
    (ran : attempts tools transport url remaining last sent = .ok (value, response, after)) :
    (∃ number, transport number url = .response response) ∧ response.Succeeded ∧
      response.value = .ok value := by
  induction remaining generalizing last sent with
  | zero => cases ran
  | succ remaining ih =>
      rw [attempts] at ran
      cases reply : transport sent url with
      | raised =>
          rw [reply] at ran
          by_cases final : remaining = 0
          · simp [final] at ran
          · exact ih (by simpa [final] using ran)
      | response found =>
          rw [reply] at ran
          dsimp only at ran
          split_ifs at ran with succeeded _ _ _
          · rcases bind_ok_iff.mp ran with ⟨loaded, isValue, same⟩
            cases same
            exact ⟨⟨sent, reply⟩, succeeded, isValue⟩
          · exact ih ran

theorem requestValue_returns {maxAttempts : Int}
    (ran : requestValue tools transport url maxAttempts sent = .ok (value, response, after)) :
    (∃ number, transport number url = .response response) ∧ response.Succeeded ∧
      response.value = .ok value := by
  unfold requestValue at ran
  split_ifs at ran with invalid
  exact attempts_returns ran

/-- A success at once is returned. -/
theorem requestValue_of_succeeded (reply : transport sent url = .response response)
    (succeeded : response.Succeeded) (isValue : response.value = .ok value) :
    requestValue tools transport url 2 sent = .ok (value, response, sent + 1) := by
  have two : (2 : Int).toNat = 1 + 1 := rfl
  rw [requestValue, if_neg (by omega), two, attempts, reply]
  dsimp only
  rw [if_pos succeeded, isValue]
  rfl

end Request

/-! ## What is read off the headers -/

/-- The piece spells the relation and begins with the target in angle brackets. -/
def Offers (part target : List Char) : Prop :=
  spelling <:+: part ∧
    (Text.strip (String.ofList (part.takeWhile (· ≠ ';')))).toList = '<' :: target ++ ['>']

/-- The address after the current one: that of the first piece that offers one, else the
current one with the number of the next page. -/
inductive Found (tools : Tools) (headers : List (String × String)) (current : String) :
    Option String → Prop where
  | link {before after : List (List Char)} {part target : List Char}
      (split : pieces headers = before ++ part :: after)
      (first : ∀ other ∈ before, ∀ chars, ¬Offers other chars) (offers : Offers part target) :
      Found tools headers current (some (String.ofList target))
  | page (unlinked : ∀ part ∈ pieces headers, ∀ target, ¬Offers part target)
      (numbered : nextPage headers ≠ "") :
      Found tools headers current (some (tools.withPage current (nextPage headers)))
  | last (unlinked : ∀ part ∈ pieces headers, ∀ target, ¬Offers part target)
      (blank : nextPage headers = "") : Found tools headers current none

variable {part target : List Char}

theorem bracketed_eq_some_iff : bracketed part = some target ↔
      (Text.strip (String.ofList (part.takeWhile (· ≠ ';')))).toList = '<' :: target ++ ['>'] := by
  simp only [bracketed]
  generalize (Text.strip (String.ofList (part.takeWhile (· ≠ ';')))).toList = left
  constructor
  · intro found
    split_ifs at found with brackets
    rcases brackets with ⟨opens, closes⟩
    rcases List.head?_eq_some_iff.mp opens with ⟨rest, rfl⟩
    rcases List.eq_nil_or_concat rest with rfl | ⟨middle, last, rfl⟩
    · simp at closes
    · rw [List.concat_eq_append] at closes found ⊢
      rw [← List.cons_append, List.getLast?_concat] at closes
      rw [List.tail_cons, List.dropLast_concat] at found
      cases closes
      cases found
      rfl
  · rintro rfl
    rw [List.cons_append, List.head?_cons, ← List.cons_append, List.getLast?_concat,
      if_pos ⟨rfl, rfl⟩, List.cons_append, List.tail_cons, List.dropLast_concat]

theorem offered_eq_some_iff : offered part = some target ↔ Offers part target := by
  unfold offered Offers
  rw [← Text.hasInfix_iff, ← bracketed_eq_some_iff]
  split_ifs with spelled
  · exact (and_iff_right spelled).symm
  · exact iff_of_false not_false fun both => spelled both.1

theorem offered_eq_none_iff : offered part = none ↔ ∀ target, ¬Offers part target := by
  rw [Option.eq_none_iff_forall_ne_some]
  exact forall_congr' fun target => not_congr offered_eq_some_iff

theorem found_nextLink (tools : Tools) (headers : List (String × String)) (current : String) :
    Found tools headers current (nextLink tools headers current) := by
  unfold nextLink
  cases first : (pieces headers).findSome? offered with
  | some target =>
      rcases List.findSome?_eq_some_iff.mp first with
        ⟨before, part, after, split, isOffered, earlier⟩
      exact Found.link split (fun other inside => offered_eq_none_iff.mp (earlier other inside))
        (offered_eq_some_iff.mp isOffered)
  | none =>
      have unlinked : ∀ part ∈ pieces headers, ∀ target, ¬Offers part target := fun part inside =>
        offered_eq_none_iff.mp (List.findSome?_eq_none_iff.mp first part inside)
      dsimp only
      split_ifs with blank
      · exact Found.page unlinked blank
      · exact Found.last unlinked (not_not.mp blank)

theorem Found.eq_nextLink {tools : Tools} {headers : List (String × String)} {current : String}
    {next : Option String} (found : Found tools headers current next) :
    next = nextLink tools headers current := by
  unfold nextLink
  cases found with
  | link split first offers =>
      rw [List.findSome?_eq_some_iff.mpr ⟨_, _, _, split, offered_eq_some_iff.mpr offers,
        fun other inside => offered_eq_none_iff.mpr (first other inside)⟩]
  | page unlinked numbered =>
      rw [List.findSome?_eq_none_iff.mpr fun part inside =>
        offered_eq_none_iff.mpr (unlinked part inside)]
      exact (if_pos numbered).symm
  | last unlinked blank =>
      rw [List.findSome?_eq_none_iff.mpr fun part inside =>
        offered_eq_none_iff.mpr (unlinked part inside)]
      exact (if_neg (not_not.mpr blank)).symm

end Adwf.Provider
