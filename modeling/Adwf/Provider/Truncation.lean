import Adwf.Provider.Paging
import Mathlib.Data.List.Nodup
import Mathlib.Data.List.Flatten

/-!
# Complete reads of a paged resource

A resource is the pages behind its addresses, each with its headers and the
next address they announce by RFC 8288 or by a page number.  A read is complete
when what it returns is all pages in the announced order, whatever they hold and
whichever requests fail for the moment.
-/

namespace Adwf.Provider

/-! ## The `Link` field of RFC 8288 -/

structure LinkParam where
  name : List Char
  value : Option (List Char)

structure Link where
  target : List Char
  params : List LinkParam

def isAlpha (char : Char) : Bool :=
  ('a' ≤ char && char ≤ 'z') || ('A' ≤ char && char ≤ 'Z')

/-- `tchar`. -/
def isTokenChar (char : Char) : Bool :=
  isAlpha char || Text.isDigit char || char ∈ "!#$%&'*+-.^_|~\x60".toList

/-- A character of a `URI-Reference`. -/
def isUriChar (char : Char) : Bool :=
  isAlpha char || Text.isDigit char || char ∈ "-._~:/?#[]@!$&'()*+,;=%".toList

/-- `qdtext`. -/
def isQuotedChar (char : Char) : Bool :=
  char = '\t' || (' ' ≤ char && char ≠ '"' && char ≠ '\\' && char ≠ '\x7f')

/-- What may follow a backslash. -/
def isEscapedChar (char : Char) : Bool :=
  char = '\t' || (' ' ≤ char && char ≠ '\x7f')

def Token (chars : List Char) : Prop :=
  Text.nonemptyOf isTokenChar chars = true

/-- Optional white space. -/
def Blanks (chars : List Char) : Prop :=
  ∀ char ∈ chars, char = ' ' ∨ char = '\t'

/-- The content of a quoted string and how it is written. -/
inductive QuotedContent : List Char → List Char → Prop where
  | nil : QuotedContent [] []
  | plain {char : Char} {content text : List Char} (allowed : isQuotedChar char = true)
      (rest : QuotedContent content text) : QuotedContent (char :: content) (char :: text)
  | escaped {char : Char} {content text : List Char} (allowed : isEscapedChar char = true)
      (rest : QuotedContent content text) : QuotedContent (char :: content) ('\\' :: char :: text)

/-- `link-param`. -/
inductive WrittenParam : LinkParam → List Char → Prop where
  | bare {name blanks : List Char} (isName : Token name) (isBlank : Blanks blanks) :
      WrittenParam ⟨name, none⟩ (name ++ blanks)
  | token {name before after value : List Char} (isName : Token name) (isBlank : Blanks before)
      (isBlankAfter : Blanks after) (isValue : Token value) :
      WrittenParam ⟨name, some value⟩ (name ++ before ++ '=' :: after ++ value)
  | quoted {name before after content text : List Char} (isName : Token name)
      (isBlank : Blanks before) (isBlankAfter : Blanks after)
      (isContent : QuotedContent content text) :
      WrittenParam ⟨name, some content⟩ (name ++ before ++ '=' :: after ++ '"' :: text ++ ['"'])

/-- `*( OWS ";" OWS [ link-param ] )`. -/
inductive WrittenParams : List LinkParam → List Char → Prop where
  | nil : WrittenParams [] []
  | skip {before after text : List Char} {params : List LinkParam} (isBlank : Blanks before)
      (isBlankAfter : Blanks after) (rest : WrittenParams params text) :
      WrittenParams params (before ++ ';' :: after ++ text)
  | param {before after written text : List Char} {param : LinkParam} {params : List LinkParam}
      (isBlank : Blanks before) (isBlankAfter : Blanks after) (isParam : WrittenParam param written)
      (rest : WrittenParams params text) :
      WrittenParams (param :: params) (before ++ ';' :: after ++ written ++ text)

/-- `link-value`. -/
def WrittenLink (link : Link) (chars : List Char) : Prop :=
  ∃ text, link.target.all isUriChar = true ∧ WrittenParams link.params text ∧
    chars = '<' :: link.target ++ '>' :: text

/-- A list of links as a sender writes it. -/
inductive WrittenLinks : List Link → List Char → Prop where
  | one {link : Link} {text : List Char} (isLink : WrittenLink link text) : WrittenLinks [link] text
  | more {link : Link} {links : List Link} {text before after rest : List Char}
      (isLink : WrittenLink link text) (isBlank : Blanks before) (isBlankAfter : Blanks after)
      (others : WrittenLinks links rest) :
      WrittenLinks (link :: links) (text ++ before ++ ',' :: after ++ rest)

/-- The value of the first parameter with the name. -/
def Link.param? (link : Link) (name : List Char) : Option (List Char) :=
  (link.params.find? fun param => param.name.map Char.toLower = name).bind (·.value)

/-- The link leads from this page to the next: its relation types, separated by spaces and
compared without case, have `next`, and it has no other context. -/
def Link.isNext (link : Link) : Bool :=
  link.param? "anchor".toList = none &&
    "next".toList ∈ (((link.param? "rel".toList).getD []).map Char.toLower).splitOn ' '

/-- The addresses that references and page numbers stand for, seen from an address. -/
structure Addressing where
  resolve : String → List Char → String
  numbered : String → String → String

/-- The header leads to no next page. -/
def Unlinked (headers : List (String × String)) : Prop :=
  headers.lookup "Link" = none ∨
    ∃ text links, headers.lookup "Link" = some text ∧ WrittenLinks links text.toList ∧
      ∀ link ∈ links, link.isNext = false

inductive Announces (addressing : Addressing) (headers : List (String × String))
    (current : String) : Option String → Prop where
  | link {text : String} {links : List Link} {link : Link}
      (field : headers.lookup "Link" = some text) (written : WrittenLinks links text.toList)
      (listed : link ∈ links) (isNext : link.isNext = true)
      (unique : ∀ other ∈ links, other.isNext = true →
        addressing.resolve current other.target = addressing.resolve current link.target) :
      Announces addressing headers current (some (addressing.resolve current link.target))
  | page (unlinked : Unlinked headers) (numbered : nextPage headers ≠ "") :
      Announces addressing headers current (some (addressing.numbered current (nextPage headers)))
  | last (unlinked : Unlinked headers) (blank : nextPage headers = "") :
      Announces addressing headers current none

/-- A page without its items. -/
structure Entry where
  headers : List (String × String)
  announced : Option String

/-- The pages behind their addresses; their headers announce what follows. -/
structure Resource (addressing : Addressing) where
  page : String → Option Entry
  valid : ∀ address entry, page address = some entry →
    Announces addressing entry.headers address entry.announced

/-! ## Ways through the pages -/

/-- From page to page until one that leads nowhere. -/
inductive Trail (next : String → Option String → Prop) : String → List String → Prop where
  | last {address : String} (ends : next address none) : Trail next address [address]
  | more {address following : String} {addresses : List String}
      (leads : next address (some following)) (rest : Trail next following addresses) :
      Trail next address (address :: addresses)

section Trails

variable {next : String → Option String → Prop} {address : String} {first second : List String}

theorem Trail.unique
    (functional : ∀ address one other, next address one → next address other → one = other)
    (trail : Trail next address first) (other : Trail next address second) : first = second := by
  induction trail generalizing second with
  | last ends =>
      cases other with
      | last _ => rfl
      | more leads _ => cases functional _ _ _ ends leads
  | more leads _ ih =>
      cases other with
      | last ends => cases functional _ _ _ leads ends
      | more others rest =>
          cases functional _ _ _ leads others
          rw [ih rest]

theorem Trail.ne_nil (trail : Trail next address first) : first ≠ [] := by
  cases trail <;> exact List.cons_ne_nil _ _

/-- Every page on a way begins the rest of it. -/
theorem Trail.suffix (trail : Trail next address first) {other : String} (inside : other ∈ first) :
    ∃ rest, Trail next other rest ∧ rest.length ≤ first.length := by
  induction trail with
  | last ends =>
      rw [List.mem_singleton.mp inside]
      exact ⟨_, Trail.last ends, Nat.le_refl _⟩
  | more leads rest ih =>
      rcases List.mem_cons.mp inside with rfl | later
      · exact ⟨_, Trail.more leads rest, Nat.le_refl _⟩
      · rcases ih later with ⟨addresses, trail, shorter⟩
        exact ⟨addresses, trail, Nat.le_succ_of_le shorter⟩

/-- A way that ends meets no page twice. -/
theorem Trail.nodup
    (functional : ∀ address one other, next address one → next address other → one = other)
    (trail : Trail next address first) : first.Nodup := by
  induction trail with
  | last _ => exact List.nodup_cons.mpr ⟨List.not_mem_nil, List.nodup_nil⟩
  | more leads rest ih =>
      refine List.nodup_cons.mpr ⟨?_, ih⟩
      intro again
      rcases rest.suffix again with ⟨addresses, trail, shorter⟩
      have whole := trail.unique functional (Trail.more leads rest)
      rw [whole] at shorter
      exact absurd shorter (Nat.not_succ_le_self _)

end Trails

namespace Resource

variable {addressing : Addressing} (resource : Resource addressing)

/-- What the pages announce. -/
def Announced (address : String) (next : Option String) : Prop :=
  ∃ entry, resource.page address = some entry ∧ entry.announced = next

/-- What is found in the headers of the pages; an empty address leads nowhere. -/
def Read (tools : Tools) (address : String) (next : Option String) : Prop :=
  ∃ entry found, resource.page address = some entry ∧
    Found tools entry.headers address found ∧ next = found.filter (· ≠ "")

/-- The value has the items, itself or under the key. -/
def Carries (objectKey : Option String) (value : Json) (items : List Fields) : Prop :=
  value = .arr (items.map .obj) ∨
    ∃ key fields, objectKey = some key ∧ key ≠ "" ∧ value = .obj fields ∧
      fields.lookup key = some (.arr (items.map .obj))

/-- The failures that pass. -/
def Transient : Reply → Prop
  | .raised => True
  | .response response => response.status ∈ transientStatuses

/-- The reply that the resource has for an address. -/
def Answers (objectKey : Option String) (contents : String → List Fields) (address : String) :
    Reply → Prop
  | .raised => False
  | .response response =>
      match resource.page address with
      | none => response.status ∈ fatalStatuses
      | some entry => response.Succeeded ∧ response.headers = entry.headers ∧
          ∃ value, response.body = .json value ∧ Carries objectKey value (contents address)

/-- The resource does not change: each request gets its answer or fails for the moment. -/
def Serves (objectKey : Option String) (contents : String → List Fields)
    (transport : Transport) : Prop :=
  ∀ sent address, Transient (transport sent address) ∨
    resource.Answers objectKey contents address (transport sent address)

/-- What a read returns is the items of all announced pages, each once and in order. -/
def Complete (tools : Tools) (url : String) (maxPages : Int) (objectKey : Option String) : Prop :=
  ∀ contents transport items, resource.Serves objectKey contents transport →
    requestListPages tools transport url maxPages objectKey = .ok items →
      ∃ addresses, Trail resource.Announced url addresses ∧ addresses.Nodup ∧
        items = addresses.flatMap contents

/-- A way that the headers are read to give, and that ends within the budget, is the announced
one. -/
def ReadAsAnnounced (tools : Tools) (url : String) (maxPages : Int) : Prop :=
  ∀ addresses, Trail (resource.Read tools) url addresses → addresses.length ≤ maxPages →
    maxPages ≤ 100 → Trail resource.Announced url addresses

/-! ## What is returned was read on a way -/

variable {resource} {tools : Tools} {transport : Transport} {objectKey : Option String}
  {contents : String → List Fields}

theorem mapM_members (items : List Fields) : (items.map Json.obj).mapM members? = some items := by
  induction items with
  | nil => rfl
  | cons item rest ih =>
      rw [List.map_cons, List.mapM_cons, ih]
      rfl

variable {items : List Fields} {response : HttpResponse}

theorem rows_of_carries {value : Json} (carries : Carries objectKey value items) :
    rows (pageOf objectKey value) = some items := by
  rcases carries with rfl | ⟨key, fields, rfl, named, rfl, held⟩
  · have self : pageOf objectKey (.arr (items.map .obj)) = .arr (items.map .obj) := by
      cases objectKey <;> rfl
    rw [self]
    exact mapM_members items
  · have found : pageOf (some key) (.obj fields) = .arr (items.map .obj) := by
      simp only [pageOf, named, if_false, held, Option.getD_some]
    rw [found]
    exact mapM_members items

theorem not_transient_of_succeeded (succeeded : response.Succeeded) :
    ¬Transient (.response response) := by
  intro transient
  have few : ∀ status ∈ transientStatuses, 300 ≤ status := by decide
  exact absurd succeeded.2 (Int.not_lt.mpr (few _ transient))

theorem not_fatal_of_succeeded (succeeded : response.Succeeded) :
    response.status ∉ fatalStatuses := by
  intro fatal
  have few : ∀ status ∈ fatalStatuses, 300 ≤ status := by decide
  exact absurd succeeded.2 (Int.not_lt.mpr (few _ fatal))

theorem page_of_requestValue {maxAttempts : Int} {url : String} {sent after : Nat} {value : Json} (serves : resource.Serves objectKey contents transport)
    (ran : requestValue tools transport url maxAttempts sent = .ok (value, response, after)) :
    ∃ entry, resource.page url = some entry ∧ response.headers = entry.headers ∧
      rows (pageOf objectKey value) = some (contents url) := by
  rcases requestValue_returns ran with ⟨⟨number, reply⟩, succeeded, isValue⟩
  rcases serves number url with transient | answers
  · rw [reply] at transient
    exact absurd transient (not_transient_of_succeeded succeeded)
  · rw [reply, Answers] at answers
    cases page : resource.page url with
    | none =>
        rw [page] at answers
        exact absurd answers (not_fatal_of_succeeded succeeded)
    | some entry =>
        rw [page] at answers
        rcases answers with ⟨_, same, held, body, carries⟩
        rw [HttpResponse.value, body] at isValue
        cases isValue
        exact ⟨entry, rfl, same, rows_of_carries carries⟩

theorem readPages_returns (serves : resource.Serves objectKey contents transport)
    {budget sent : Nat} {result : List Fields} {current : String}
    (ran : readPages tools transport objectKey budget items current sent = .ok result) :
    ∃ addresses, Trail (resource.Read tools) current addresses ∧ addresses.length ≤ budget ∧
      result = items ++ addresses.flatMap contents := by
  induction budget generalizing items current sent with
  | zero => cases ran
  | succ budget ih =>
      rw [readPages] at ran
      rcases Fallible.bind_ok_iff.mp ran with ⟨⟨value, response, after⟩, requested, rest⟩
      rcases page_of_requestValue serves requested with ⟨entry, page, same, found⟩
      have reads := found_nextLink tools entry.headers current
      have ends (none : (nextLink tools entry.headers current).filter (· ≠ "") = none) :
          ∃ addresses, Trail (resource.Read tools) current addresses ∧
            addresses.length ≤ budget + 1 ∧
            items ++ contents current = items ++ addresses.flatMap contents :=
        ⟨[current], Trail.last ⟨entry, _, page, reads, none.symm⟩, Nat.succ_le_succ (Nat.zero_le _),
          by rw [List.flatMap_singleton]⟩
      dsimp only at rest
      rw [found, same] at rest
      dsimp only at rest
      cases link : nextLink tools entry.headers current with
      | none =>
          rw [link] at rest ends
          cases rest
          exact ends rfl
      | some next =>
          rw [link] at rest ends
          dsimp only at rest
          by_cases empty : next = ""
          · rw [if_pos empty] at rest
            cases rest
            exact ends (by simp [empty])
          · rw [if_neg empty] at rest
            rcases ih rest with ⟨addresses, trail, short, rfl⟩
            have kept : some next = (nextLink tools entry.headers current).filter (· ≠ "") :=
              (Option.filter_eq_some_iff.mpr ⟨link, decide_eq_true empty⟩).symm
            refine ⟨current :: addresses, Trail.more ⟨entry, _, page, reads, kept⟩ trail,
              Nat.succ_le_succ short, ?_⟩
            rw [List.flatMap_cons, List.append_assoc]

/-! ## A read without failures -/

variable (resource) (contents) in
/-- Every request gets its answer, the items as a list. -/
def steady : Transport :=
  fun _ address =>
    match resource.page address with
    | none => .response ⟨404, [], .empty⟩
    | some entry => .response ⟨200, entry.headers, .json (.arr ((contents address).map .obj))⟩

theorem fatal_notFound : (404 : Int) ∈ fatalStatuses := by
  decide

theorem succeeded_ok (headers : List (String × String)) (body : Body) :
    HttpResponse.Succeeded ⟨200, headers, body⟩ :=
  ⟨Int.le_refl 200, show (200 : Int) < 300 by decide⟩

theorem serves_steady : resource.Serves objectKey contents (resource.steady contents) := by
  intro sent address
  right
  unfold steady Answers
  cases page : resource.page address with
  | none => exact fatal_notFound
  | some entry => exact ⟨succeeded_ok _ _, rfl, _, rfl, Or.inl rfl⟩

theorem requestValue_steady {address : String} {entry : Entry} {sent : Nat}
    (page : resource.page address = some entry) :
    ∃ value, requestValue tools (resource.steady contents) address 2 sent =
        .ok (value, ⟨200, entry.headers, .json value⟩, sent + 1) ∧
      rows (pageOf objectKey value) = some (contents address) := by
  refine ⟨.arr ((contents address).map .obj), ?_, rows_of_carries (Or.inl rfl)⟩
  have reply : resource.steady contents sent address =
      .response ⟨200, entry.headers, .json (.arr ((contents address).map .obj))⟩ := by
    rw [steady, page]
  exact requestValue_of_succeeded reply (succeeded_ok _ _) rfl

/-- A way that the headers give and that the budget allows is read to its end. -/
theorem readPages_steady {current : String} {addresses : List String}
    (trail : Trail (resource.Read tools) current addresses) {budget sent : Nat} (enough : addresses.length ≤ budget) :
    readPages tools (resource.steady contents) objectKey budget items current sent =
      .ok (items ++ addresses.flatMap contents) := by
  induction trail generalizing budget sent items with
  | @last address ends =>
      rcases ends with ⟨entry, found, page, isFound, filtered⟩
      cases budget with
      | zero => cases enough
      | succ budget =>
          rcases @requestValue_steady _ _ tools objectKey contents _ _ sent page with
            ⟨value, requested, isPage⟩
          rw [readPages, requested, Fallible.ok_bind]
          dsimp only
          rw [isPage, ← isFound.eq_nextLink, List.flatMap_singleton]
          dsimp only
          cases found with
          | none => rfl
          | some next =>
              have empty : next = "" := by
                by_contra filled
                have kept : (some next).filter (· ≠ "") = some next :=
                  Option.filter_eq_some_iff.mpr ⟨rfl, decide_eq_true filled⟩
                rw [kept] at filtered
                cases filtered
              dsimp only
              rw [if_pos empty]
              rfl
  | @more address following addresses leads rest ih =>
      rcases leads with ⟨entry, found, page, isFound, filtered⟩
      cases budget with
      | zero => cases enough
      | succ budget =>
          rcases @requestValue_steady _ _ tools objectKey contents _ _ sent page with
            ⟨value, requested, isPage⟩
          rcases Option.filter_eq_some_iff.mp filtered.symm with ⟨rfl, filled⟩
          rw [readPages, requested, Fallible.ok_bind]
          dsimp only
          rw [isPage, ← isFound.eq_nextLink]
          dsimp only
          rw [if_neg (of_decide_eq_true filled),
            ih (Nat.le_of_succ_le_succ enough), List.flatMap_cons,
            List.append_assoc]

theorem announced_functional (address : String) (one other : Option String)
    (first : resource.Announced address one) (second : resource.Announced address other) :
    one = other := by
  rcases first with ⟨entry, page, rfl⟩
  rcases second with ⟨same, pageAgain, rfl⟩
  rw [page] at pageAgain
  cases pageAgain
  rfl

/-- One item that tells the page. -/
def ownItem (address : String) : List Fields :=
  [[("address", .str address)]]

theorem flatMap_ownItem_injective {first second : List String}
    (same : first.flatMap ownItem = second.flatMap ownItem) : first = second := by
  have asMap : ∀ addresses : List String,
      addresses.flatMap ownItem = addresses.map fun address => [("address", Json.str address)] :=
    fun addresses => List.flatMap_pure_eq_map _ addresses
  rw [asMap, asMap] at same
  refine List.map_injective_iff.mpr ?_ same
  intro one other equal
  simpa using equal

variable (resource) (tools) (objectKey) in
/-- Reads are complete when the way that the headers are read to give is the announced one. -/
theorem complete_read_iff (url : String) (maxPages : Int) :
    resource.Complete tools url maxPages objectKey ↔
      resource.ReadAsAnnounced tools url maxPages := by
  constructor
  · intro complete addresses trail short bounded
    have some := List.length_pos_iff.mpr trail.ne_nil
    have enough : addresses.length ≤ maxPages.toNat := by omega
    have ran : requestListPages tools (resource.steady ownItem) url maxPages objectKey =
        .ok (addresses.flatMap ownItem) := by
      rw [requestListPages, if_neg (by omega), readPages_steady trail enough, List.nil_append]
    rcases complete ownItem _ _ serves_steady ran with ⟨announced, isTrail, _, same⟩
    rw [flatMap_ownItem_injective same]
    exact isTrail
  · intro asAnnounced contents transport items serves ran
    unfold requestListPages at ran
    split_ifs at ran with invalid
    rcases readPages_returns serves ran with ⟨addresses, trail, short, rfl⟩
    have announced := asAnnounced addresses trail (by omega) (by omega)
    exact ⟨addresses, announced, announced.nodup announced_functional, List.nil_append _⟩

end Resource

/-! ## A relation without quotes -/

/-- References are addresses, and so are page numbers. -/
def plainAddressing : Addressing where
  resolve := fun _ reference => String.ofList reference
  numbered := fun _ number => number

def plainTools : Tools where
  sleeps := fun _ => true
  withPage := fun _ number => number

/-- The value of a parameter may be a token. -/
def tokenHeaders : List (String × String) :=
  [("Link", "<http://host/2>; rel=next")]

def tokenLink : Link :=
  ⟨"http://host/2".toList, [⟨"rel".toList, some "next".toList⟩]⟩

theorem written_tokenLink : WrittenLinks [tokenLink] "<http://host/2>; rel=next".toList := by
  have noBlanks : Blanks [] := fun _ inside => absurd inside List.not_mem_nil
  have param : WrittenParam ⟨"rel".toList, some "next".toList⟩ "rel=next".toList :=
    @WrittenParam.token "rel".toList [] [] "next".toList rfl noBlanks noBlanks rfl
  have blank : Blanks [' '] := by
    intro char inside
    exact Or.inl (List.mem_singleton.mp inside)
  have params : WrittenParams tokenLink.params "; rel=next".toList :=
    @WrittenParams.param [] [' '] "rel=next".toList [] _ [] noBlanks blank param WrittenParams.nil
  exact WrittenLinks.one ⟨_, rfl, params, rfl⟩

/-- Two pages, the first with a token for the relation. -/
def tokenResource : Resource plainAddressing where
  page := fun address =>
    if address = "http://host/1" then some ⟨tokenHeaders, some "http://host/2"⟩
    else if address = "http://host/2" then some ⟨[], none⟩
    else none
  valid := by
    intro address entry page
    split_ifs at page
    · cases page
      refine @Announces.link _ _ _ _ _ tokenLink rfl written_tokenLink List.mem_cons_self rfl ?_
      intro other inside _
      rw [List.mem_singleton.mp inside]
    · cases page
      exact Announces.last (Or.inl rfl) rfl

/-- The second page is left out without an error. -/
theorem first_page_alone :
    requestListPages plainTools (tokenResource.steady Resource.ownItem) "http://host/1" 20 none =
      .ok (Resource.ownItem "http://host/1") :=
  rfl

theorem not_always_complete :
    ¬∀ (addressing : Addressing) (resource : Resource addressing) (tools : Tools) (url : String)
      (maxPages : Int) (objectKey : Option String),
        resource.Complete tools url maxPages objectKey := by
  intro complete
  rcases complete plainAddressing tokenResource plainTools "http://host/1" 20 none
    Resource.ownItem _ _ Resource.serves_steady first_page_alone with
    ⟨addresses, trail, _, same⟩
  rw [← List.flatMap_singleton Resource.ownItem] at same
  have announced : tokenResource.Announced "http://host/1" (some "http://host/2") :=
    ⟨_, rfl, rfl⟩
  rw [← Resource.flatMap_ownItem_injective same] at trail
  cases trail with
  | last ends => cases Resource.announced_functional _ _ _ ends announced
  | more _ rest => exact absurd rfl rest.ne_nil

end Adwf.Provider
