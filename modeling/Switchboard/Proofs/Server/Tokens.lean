import Switchboard.Proofs.Json.Paths
import Switchboard.Proofs.Server.Encoding
import Switchboard.Proofs.Text.Characters
import Switchboard.Toolbox.Security
/-!
# Web tokens on a server

What calls of `jwt-read` come to. A token whose first two segments are the texts of objects shows
these objects, and whatever there is from a further point on makes no difference
(`TokenLaws.read`). Any text whatever is a token that is shown, or is said to be none: its header
and its payload are objects and there is no error, or there is one and nothing else
(`TokenLaws.total`).
-/

namespace Switchboard

namespace Toolbox

open Json (Source parse segments splitPoints)
open Text (bytes isBlank)

variable {name h p token text : String} {v w : Json} {k : Nat} {behind : List Char}

/-! ## Segments -/

/-- A text as a segment of a token, with so much padding. -/
def tokenSegment (text : String) (k : Nat) : List Char :=
  Base64.encode .urlSafe false (bytes text) ++ List.replicate k '='

/-- Nothing in a segment is blank, and nothing ends it. -/
theorem plain_of_mem_tokenSegment {c : Char} (hc : c ∈ tokenSegment text k) :
    isBlank c = false ∧ c ≠ '.' := by
  have hpoint : ∀ n < 64, Base64.Alphabet.urlSafe.symbol n ≠ '.' := by decide
  rcases List.mem_append.1 hc with hc | hc
  · obtain ⟨n, hn, hsymbol⟩ := Base64.symbol_of_mem_encode hc
    exact ⟨(Base64.plain_of_mem_encode hc).2, hsymbol ▸ hpoint n hn⟩
  · obtain rfl := List.eq_of_mem_replicate hc
    decide

theorem decode_tokenSegment (hk : k ≤ Base64.padding (bytes text).length) :
    Base64.decode .urlSafe false (bytes (String.ofList (tokenSegment text k))) =
      .ok (bytes text) :=
  decodeBytes_url_iff.2 ⟨k, hk, rfl⟩

/-- **The text of an object is read from its segment** as the object. -/
theorem segmentObject_tokenSegment (hk : k ≤ Base64.padding (bytes text).length)
    (hparse : parse text = .ok v) (hobject : v.isObject = true) (name : String) :
    segmentObject name (String.ofList (tokenSegment text k)) = .ok v := by
  rw [parse] at hparse
  rw [segmentObject, decode_tokenSegment hk]
  dsimp only
  rw [Source.ofBytes_bytes, hparse]
  exact if_pos hobject

/-- And nothing but an object is. -/
theorem isObject_of_segmentObject {segment : String} (h : segmentObject name segment = .ok v) :
    v.isObject = true := by
  rw [segmentObject] at h
  split at h
  · cases h
  · split at h
    · cases h
    · next w _ =>
      by_cases hw : w.isObject = true
      · rw [if_pos hw] at h
        obtain rfl := Except.ok.inj h
        exact hw
      · rw [if_neg hw] at h
        cases h

/-! ## Tokens -/

/-- **A token with these texts in its first two segments,** padded or not. It ends there, or goes on
with a point and whatever follows; and there may be blanks around it. -/
inductive Carries (h p : String) : String → Prop where
  | written {before after suffix : List Char} {j k : Nat}
      (blank_before : ∀ c ∈ before, isBlank c = true)
      (blank_after : ∀ c ∈ after, isBlank c = true)
      (header_padding : j ≤ Base64.padding (bytes h).length)
      (payload_padding : k ≤ Base64.padding (bytes p).length)
      (ends : suffix = [] ∨ suffix.head? = some '.') :
      Carries h p (String.ofList
        (before ++ (tokenSegment h j ++ '.' :: tokenSegment p k ++ (suffix ++ after))))

/-- What is left of such a suffix is one. -/
theorem trimRight_suffix {suffix after : List Char} (hafter : ∀ c ∈ after, isBlank c = true)
    (hsuffix : suffix = [] ∨ suffix.head? = some '.') :
    Text.trimRight (suffix ++ after) = [] ∨
      ∃ more, Text.trimRight (suffix ++ after) = '.' :: more := by
  rcases hsuffix with rfl | hsuffix
  · left
    rw [List.nil_append, Text.trimRight_of_isBlank hafter]
  · right
    obtain ⟨more, rfl⟩ := List.head?_eq_some_iff.1 hsuffix
    have hpoint : ∀ c ∈ ['.'], isBlank c = false := by
      intro c hc
      rw [List.mem_singleton.1 hc]
      rfl
    exact ⟨_, Text.trimRight_append hpoint (more ++ after)⟩

theorem segments_token (h p : String) (j k : Nat)
    (hbehind : behind = [] ∨ ∃ more, behind = '.' :: more) :
    ∃ more, segments (String.ofList (tokenSegment h j ++ '.' :: tokenSegment p k ++ behind)) =
      String.ofList (tokenSegment h j) :: String.ofList (tokenSegment p k) :: more := by
  have hplain {t : String} {i : Nat} : splitPoints (tokenSegment t i) = [tokenSegment t i] :=
    Json.splitPoints_of_not_mem fun hmem => (plain_of_mem_tokenSegment hmem).2 rfl
  rw [segments, String.toList_ofList, List.append_assoc, List.cons_append, Json.splitPoints_append,
    hplain]
  rcases hbehind with rfl | ⟨more, rfl⟩
  · rw [List.append_nil, hplain]
    exact ⟨[], rfl⟩
  · rw [Json.splitPoints_append, hplain]
    exact ⟨_, rfl⟩

/-- **Such a token is read as the two objects.** -/
theorem readToken_of_carries (hcarries : Carries h p token) (hheader : parse h = .ok v)
    (hv : v.isObject = true) (hpayload : parse p = .ok w) (hw : w.isObject = true) :
    readToken token = .ok (v, w) := by
  obtain @⟨before, after, suffix, j, k, hbefore, hafter, hj, hk, hends⟩ := hcarries
  have hcore : ∀ c ∈ tokenSegment h j ++ '.' :: tokenSegment p k, isBlank c = false := by
    intro c hc
    rcases List.mem_append.1 hc with hc | hc
    · exact (plain_of_mem_tokenSegment hc).1
    · rcases List.mem_cons.1 hc with rfl | hc
      · rfl
      · exact (plain_of_mem_tokenSegment hc).1
  have htrim := Text.trimChars_around hbefore hcore (by simp) (suffix ++ after)
  obtain ⟨more, hsegments⟩ := segments_token h p j k (trimRight_suffix hafter hends)
  rw [readToken, Text.trim, String.toList_ofList, htrim, hsegments]
  dsimp only
  rw [segmentObject_tokenSegment hj hheader hv, segmentObject_tokenSegment hk hpayload hw]
  rfl

theorem isObject_of_readToken (hread : readToken token = .ok (v, w)) :
    v.isObject = true ∧ w.isObject = true := by
  rw [readToken] at hread
  split at hread
  · obtain ⟨v', hv, hread⟩ := bind_eq_ok_iff.1 hread
    obtain ⟨w', hw, hread⟩ := bind_eq_ok_iff.1 hread
    obtain ⟨rfl, rfl⟩ := Prod.mk.inj (Except.ok.inj hread)
    exact ⟨isObject_of_segmentObject hv, isObject_of_segmentObject hw⟩
  · cases hread

/-! ## What is shown -/

/-- The data of a result, which a page shows. -/
structure Shows (result error header payload : Json) : Prop where
  error : result.lookup? "data.error" = some error
  header : result.lookup? "data.header" = some header
  payload : result.lookup? "data.payload" = some payload

/-- A path into the data leads to the field that was listed last under the name. -/
theorem lookup?_data (path name : String) (hpath : path ≠ "")
    (hsegments : segments path = ["data", name]) (page : Json) (entries : Json.Fields) :
    (Json.ofFields [("ui", page), ("data", .ofFields entries)]).lookup? path =
      entries.reverse.lookup name := by
  have hdata : (Json.ofFields [("ui", page), ("data", .ofFields entries)]).at? "data" =
      some (.ofFields entries) := by
    rw [Json.ofFields, Json.at?, Json.lookup_ofList]
    rfl
  rw [Json.lookup?_of_segments _ hpath hsegments, hdata, Option.bind_some, Json.follow?,
    Json.ofFields, Json.at?, Json.lookup_ofList]
  exact Option.bind_fun_some _

theorem shows_data (page error header payload : Json) :
    Shows (.ofFields [("ui", page),
      ("data", .ofFields [("error", error), ("header", header), ("payload", payload)])])
      error header payload where
  error := lookup?_data "data.error" "error" (by decide) (by decide) page _
  header := lookup?_data "data.header" "header" (by decide) (by decide) page _
  payload := lookup?_data "data.payload" "payload" (by decide) (by decide) page _

theorem tokenResult_of_ok (hread : readToken token = .ok (v, w)) :
    tokenResult token = .ofFields [("ui", tokenPage),
      ("data", .ofFields [("error", .null), ("header", v), ("payload", w)])] := by
  rw [tokenResult, hread]

theorem tokenResult_of_error {reason : String} (hread : readToken token = .error reason) :
    tokenResult token = .ofFields [("ui", tokenErrorPage),
      ("data", .ofFields [("error", .string reason), ("header", .null), ("payload", .null)])] := by
  rw [tokenResult, hread]

end Toolbox

/-! ## Calls -/

open Toolbox
open Json (parse)

/-- How a registry reads tokens. -/
structure TokenLaws (r : Registry) : Prop where
  /-- The objects in the first two segments are shown, always in the same way, -/
  read : ∀ h p v w, parse h = .ok v → v.isObject = true → parse p = .ok w → w.isObject = true →
    ∃ result, Shows result .null v w ∧
      ∀ token, Carries h p token → r.Answers "jwt-read" (GivesText token) (.ok result)
  /-- and of any text there are shown two objects, or an error, and not both. -/
  total : ∀ token, ∃ result, r.Answers "jwt-read" (GivesText token) (.ok result) ∧
    ((∃ header payload, header.isObject = true ∧ payload.isObject = true ∧
        Shows result .null header payload) ∨
      ∃ reason, Shows result (.string reason) .null .null) ∧
    ¬((∃ header payload, header.isObject = true ∧ payload.isObject = true ∧
        Shows result .null header payload) ∧
      ∃ reason, Shows result (.string reason) .null .null)

variable {r : Registry}

theorem Registry.TakesText.answers_readJwt (h : r.TakesText "jwt-read" readJwt) (token : String) :
    r.Answers "jwt-read" (GivesText token) (.ok (tokenResult token)) :=
  h.answers rfl

/-- **A token is read by its first two segments,** and never refused. -/
theorem TokenLaws.of_takesText (h : r.TakesText "jwt-read" readJwt) : TokenLaws r where
  read header payload v w hheader hv hpayload hw := by
    refine ⟨_, shows_data tokenPage .null v w, fun token hcarries => ?_⟩
    have hread := readToken_of_carries hcarries hheader hv hpayload hw
    have hanswers := h.answers_readJwt token
    rwa [tokenResult_of_ok hread] at hanswers
  total token := by
    refine ⟨tokenResult token, h.answers_readJwt token, ?_, ?_⟩
    · cases hread : readToken token with
      | ok p =>
        obtain ⟨v, w⟩ := p
        obtain ⟨hv, hw⟩ := isObject_of_readToken hread
        rw [tokenResult_of_ok hread]
        exact .inl ⟨v, w, hv, hw, shows_data _ _ _ _⟩
      | error reason =>
        rw [tokenResult_of_error hread]
        exact .inr ⟨reason, shows_data _ _ _ _⟩
    · rintro ⟨⟨header, payload, -, -, hshown⟩, reason, herror⟩
      cases hshown.error.symm.trans herror.error

namespace Deployment

variable (settings : Settings) (randomBits : Nat → Nat) (calls : List Call)

/-- **What any server makes of web tokens.** -/
theorem tokenLaws : TokenLaws ((new settings randomBits).run calls).registry := by
  have hmem : securityOperations[0] ∈ operations := by
    simp only [operations, List.mem_append, List.getElem_mem, or_true]
  exact .of_takesText (takesText_of_mem settings randomBits calls hmem rfl rfl)

end Deployment

end Switchboard
