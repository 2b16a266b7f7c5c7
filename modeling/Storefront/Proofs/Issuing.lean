/-
What is issued counts until it expires.

Issuing writes claims as JSON, the JSON in UTF-8 and the bytes in base sixty-four, and signs what it
has written; reading undoes the three one by one and checks the signature.  Each step comes back by
itself, whatever the subject is, so a token decodes to the claims that it was made of, and these
hold as long as the clock has not passed the time in them.

The subject may be any text of characters.  It may even have surrogates that stand alone, as long as
no two of them are a pair: those would come back as the character that they spell.
-/
import Mathlib
import Storefront.Proofs.Base64
import Storefront.Proofs.Calendar
import Storefront.Proofs.Rereading
import Storefront.Proofs.Signatures
import Storefront.Proofs.Subjects
import Storefront.Proofs.Tables

namespace Storefront

namespace Token

open Codec Json

/-! ### Segments -/

/-- A segment decodes to the members that it was written of. -/
theorem decodes_segment {members : Json.Members}
    (h : Legible (some .standard) .compact 0 (.object members)) :
    Decodes (segment (.object members)) members := by
  have hplain : ∀ k, Style.compact.plain (.surrogate k) = false := by
    intro k
    have hlarge : ¬0xD800 + k.val < 0x7F := by omega
    simp [Style.compact, CodePoint.value, hlarge]
  exact ⟨_, _, ofBase64?_toBase64 _, ofUtf8?_utf8 _, read_render Style.sound_compact hplain h⟩

theorem notMem_dot_segment (v : Json) : '.' ∉ segment v :=
  notMem_dot_toBase64 _

/-- A token is signed as soon as its header and its claims can be read again. -/
theorem signed_sign {secret : String} {header claims : Json.Members}
    (hheader : Legible (some .standard) .compact 0 (.object header))
    (halgorithm : header.get? "alg" = some (.text "HS256"))
    (hclaims : Legible (some .standard) .compact 0 (.object claims)) :
    Signed secret (sign secret (.object header) claims) claims := by
  refine ⟨segment (.object header), segment (.object claims),
    toBase64 (digest secret (segment (.object header) ++ '.' :: segment (.object claims))), ?_,
    notMem_dot_segment _, notMem_dot_toBase64 _, ofBase64?_toBase64 _,
    ⟨header, decodes_segment hheader, halgorithm⟩, decodes_segment hclaims⟩
  rw [sign, RawText.ofString, String.toList_ofList]
  simp

theorem sign_ne_nil (secret : String) (header : Json) (claims : Claims) :
    (sign secret header claims).toList ≠ [] := by
  rw [sign, String.toList_ofList]
  simp

/-- A token is digits and dots, so nothing of it is blank. -/
theorem isBlank_of_mem_sign {secret : String} {header : Json} {claims : Claims} {c : Char}
    (h : c ∈ (sign secret header claims).toList) : Text.isBlank c = false := by
  have hsegment : ∀ bytes : List UInt8, c ∈ toBase64 bytes → Text.isBlank c = false := by
    intro bytes hmem
    obtain ⟨n, rfl⟩ := exists_digit_of_mem hmem
    exact forall_base64Digit n (P := fun _ c => Text.isBlank c = false) (by decide +kernel)
  rw [sign, String.toList_ofList] at h
  simp only [List.mem_append, List.mem_cons] at h
  rcases h with (hheader | rfl | hclaims) | rfl | hdigest
  · exact hsegment _ hheader
  · rfl
  · exact hsegment _ hclaims
  · rfl
  · exact hsegment _ hdigest

/-! ### Tokens that are issued -/

theorem legible_text (limits : Option Limits) (style : Style) (depth : Nat) (s : String) :
    Legible limits style depth (.text s) :=
  .text depth (style.keeps_ofChars s.toList)

theorem legible_header : Legible (some .standard) .compact 0 header := by
  refine .object rfl (by decide) ?_ ?_
  · intro m hm
    simp only [List.map_cons, List.map_nil, List.mem_cons, List.not_mem_nil, or_false] at hm
    rcases hm with rfl | rfl <;> exact Style.keeps_ofChars _ _
  · intro m hm
    simp only [List.map_cons, List.map_nil, List.mem_cons, List.not_mem_nil, or_false] at hm
    rcases hm with rfl | rfl <;> exact legible_text ..

/-- A second of the calendar has fewer digits than are read. -/
theorem width_le_of_inCalendar {seconds : Int} (h : InCalendar seconds) :
    width seconds ≤ Limits.standard.digits := by
  have hsize : seconds.natAbs < 10 ^ 12 := by
    unfold InCalendar firstSecond lastSecond at h
    omega
  have hwidth : width seconds ≤ 12 :=
    (Nat.length_toDigits_le_iff (by decide) (by decide)).mpr hsize
  exact hwidth.trans (by decide)

theorem legible_issuedClaims {subject : RawText} {expires : Int}
    (hsubject : Style.compact.Keeps subject) (hexpires : InCalendar expires) :
    Legible (some .standard) .compact 0 (.object (issuedClaims subject expires)) := by
  have hkeys : (issuedClaims subject expires).map Prod.fst =
      [RawText.ofString "sub", RawText.ofString "type", RawText.ofString "exp"] := rfl
  refine .object rfl ?_ ?_ ?_
  · rw [hkeys]
    decide
  · intro m hm
    simp only [issuedClaims, List.mem_cons, List.not_mem_nil, or_false] at hm
    rcases hm with rfl | rfl | rfl <;> exact Style.keeps_ofChars _ _
  · intro m hm
    simp only [issuedClaims, List.mem_cons, List.not_mem_nil, or_false] at hm
    rcases hm with rfl | rfl | rfl
    · exact .text 1 hsubject
    · exact legible_text ..
    · exact .int 1 (decide_eq_true (width_le_of_inCalendar hexpires))

/-- The claims of a token that is issued hold until it expires. -/
theorem admission_issuedClaims (t : Int) (subject : RawText) (expires : Int) :
    admission t (issuedClaims subject expires) =
      if t ≤ expires then .ok () else .error .invalid := by
  have hexpires : timeHolds (issuedClaims subject expires) "exp" (t ≤ ·) =
      require (decide (t ≤ expires)) := rfl
  have hadmission : admission t (issuedClaims subject expires) =
      require (decide (t ≤ expires)) >>= fun _ => require true := by
    rw [← hexpires]
    rfl
  rw [hadmission]
  by_cases h : t ≤ expires
  · rw [if_pos h, decide_eq_true h]
    rfl
  · rw [if_neg h, decide_eq_false h]
    rfl

/-- A token that is issued decodes to its claims until it expires, and then to nothing. -/
theorem claims_sign {s : Settings} {t : Int} {subject : RawText} {expires : Int}
    (hsubject : Style.compact.Keeps subject) (hexpires : InCalendar expires) :
    claims s t (sign s.secret header (issuedClaims subject expires)) =
      if t ≤ expires then .ok (issuedClaims subject expires) else .error .invalid := by
  have hsigned : signed s.secret (sign s.secret header (issuedClaims subject expires)) =
      .ok (issuedClaims subject expires) :=
    signed_eq_ok.mpr (signed_sign legible_header rfl (legible_issuedClaims hsubject hexpires))
  have hclaims : claims s t (sign s.secret header (issuedClaims subject expires)) =
      (admission t (issuedClaims subject expires)).map fun _ => issuedClaims subject expires := by
    rw [claims, hsigned]
    rfl
  rw [hclaims, admission_issuedClaims]
  split <;> rfl

/-- As long as it counts, the token of an identifier gives access to its customer. -/
theorem givesAccess_sign {s : Settings} {t : Int} {u : Uuid} {expires : Int}
    (hexpires : InCalendar expires) (ht : t ≤ expires) :
    GivesAccess s t (sign s.secret header (issuedClaims u.text expires)) u := by
  have hsubject : Style.compact.Keeps (RawText.ofString u.text) := Style.compact.keeps_ofChars _
  refine ⟨issuedClaims u.text expires, u.text, ?_, List.cons_ne_nil _ _, rfl, rfl, ?_⟩
  · rw [claims?, claims_sign hsubject hexpires, if_pos ht]
    rfl
  · rw [RawText.string?_ofString]
    exact Uuid.ofSubject?_text u

theorem issue_eq_sign {s : Settings} {now : Int} {subject : RawText} (hnow : InCalendar now)
    (hexpires : InCalendar (now + 60 * s.tokenMinutes)) :
    issue s now subject =
      .ok (sign s.secret header (issuedClaims subject (now + 60 * s.tokenMinutes))) := by
  rw [issue, expiry_eq_ok.mpr ⟨hnow, hexpires, rfl⟩]
  rfl

/-! ### Tokens come back -/

/-- **A token that is issued counts until it expires.**  For every subject, every clock and every
life with which the token would expire in the calendar, there is a token.  Until the time at which
it expires, that second included, it decodes to its subject, to being one for access and to that
time, and to nothing else; later it does not count.  When the subject is the text of an identifier,
the token gives access to the customer with that identifier as long as it counts. -/
theorem issued_token_counts (s : Settings) (now : Int) (subject : String) (hnow : InCalendar now)
    (hexpires : InCalendar (now + 60 * s.tokenMinutes)) :
    let expires := now + 60 * s.tokenMinutes
    ∃ token : String, issue s now subject = .ok token ∧
      (∀ t, claims s t token =
        if t ≤ expires then
          .ok [("sub", .text subject), ("type", .text "access"), ("exp", .int expires)]
        else .error .invalid) ∧
      ∀ (u : Uuid) t, subject = u.text → t ≤ expires → customer s t token = .ok u := by
  intro expires
  refine ⟨sign s.secret header (issuedClaims subject expires), issue_eq_sign hnow hexpires,
    fun t => claims_sign (Style.compact.keeps_ofChars subject.toList) hexpires, ?_⟩
  rintro u t rfl ht
  exact customer_eq_ok.mpr (givesAccess_sign hexpires ht)

end Token

/-- A token that is issued in the morning gives access for half an hour to the second. -/
theorem issued_token_counts_corner :
    ∃ token : String, Token.issue .standard Corner.morning Corner.user.text = .ok token ∧
      Token.customer .standard (Corner.morning + 1800) token = .ok Corner.user ∧
      Token.claims .standard (Corner.morning + 1801) token = .error .invalid := by
  obtain ⟨token, htoken, hclaims, haccess⟩ := Token.issued_token_counts .standard Corner.morning
    Corner.user.text ⟨by decide, by decide⟩ ⟨by decide, by decide⟩
  have hlate := hclaims (Corner.morning + 1801)
  rw [if_neg (by decide)] at hlate
  exact ⟨token, htoken, haccess Corner.user _ rfl (by decide), hlate⟩

end Storefront
