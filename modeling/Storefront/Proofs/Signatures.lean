/-
What it takes for a token to count.

A token counts when two things hold that have nothing to do with each other.  It is signed
(`Signed`): cut at its first and its last dot it is a header, claims and the digest of the two as
they are written, and the claims are what the middle writes, whatever else would write the same.
That is settled by the secret alone, at all times alike.  And the claims hold at the time (`Hold`),
which they do from one moment to another: each time that they set is a bound on one side.

The cuts are at the first and the last dot, so a header and a digest have no dots, while the claims
may have some, which say nothing.

A token that counts gives access when its claims say so and its subject names a customer
(`GivesAccess`).
-/
import Mathlib
import Storefront.Proofs.Bodies
import Storefront.Token

namespace Storefront

/-! ### Parts between separators -/

namespace Text

variable {α : Type} [DecidableEq α] {sep : α} {cs : List α}

theorem split_ne_nil (sep : α) (cs : List α) : split sep cs ≠ [] := by
  rw [← List.length_pos_iff, length_split]
  exact Nat.succ_pos _

theorem split_of_notMem (h : sep ∉ cs) : split sep cs = [cs] := by
  induction cs with
  | nil => rfl
  | cons c cs ih =>
      obtain ⟨hc, hcs⟩ := not_or.mp (fun hmem => h (List.mem_cons.mpr hmem))
      rw [split, if_neg (Ne.symm hc), ih hcs]

theorem split_append_cons (sep : α) (cs ds : List α) :
    split sep (cs ++ sep :: ds) = split sep cs ++ split sep ds := by
  induction cs with
  | nil => simp [split]
  | cons c cs ih =>
      rw [List.cons_append, split, split, ih]
      split
      · rfl
      · obtain ⟨part, parts, hparts⟩ := List.exists_cons_of_ne_nil (split_ne_nil sep cs)
        simp [hparts]

theorem notMem_of_mem_split {part : List α} (h : part ∈ split sep cs) : sep ∉ part := by
  induction cs generalizing part with
  | nil =>
      obtain rfl := List.mem_singleton.mp h
      exact List.not_mem_nil
  | cons c cs ih =>
      rw [split] at h
      split at h
      · rcases List.mem_cons.mp h with rfl | hmem
        · exact List.not_mem_nil
        · exact ih hmem
      · next hc =>
        split at h
        · obtain rfl := List.mem_singleton.mp h
          simpa using Ne.symm hc
        · next first rest hsplit =>
          rcases List.mem_cons.mp h with rfl | hmem
          · have hfirst : sep ∉ first := ih (by simp [hsplit])
            simp [Ne.symm hc, hfirst]
          · exact ih (by simp [hsplit, hmem])

/-- The parts of a text with the separators between them are the text. -/
theorem intercalate_split (sep : α) (cs : List α) : [sep].intercalate (split sep cs) = cs := by
  induction cs with
  | nil => rfl
  | cons c cs ih =>
      rw [split]
      cases hsplit : split sep cs with
      | nil => exact absurd hsplit (split_ne_nil sep cs)
      | cons part parts =>
          rw [hsplit] at ih
          by_cases hc : c = sep
          · rw [if_pos hc, List.intercalate_cons_cons, ih, hc]
            rfl
          · rw [if_neg hc]
            cases parts with
            | nil => simpa using ih
            | cons next parts =>
                rw [List.intercalate_cons_cons] at ih ⊢
                rw [← ih]
                rfl

omit [DecidableEq α] in
theorem intercalate_concat {parts : List (List α)} (h : parts ≠ []) (last : List α) :
    [sep].intercalate (parts ++ [last]) = [sep].intercalate parts ++ sep :: last := by
  induction parts with
  | nil => exact absurd rfl h
  | cons part parts ih =>
      cases parts with
      | nil => simp [List.intercalate_cons_cons]
      | cons next parts =>
          have hrest := ih (List.cons_ne_nil next parts)
          rw [List.cons_append] at hrest ⊢
          rw [List.cons_append, List.intercalate_cons_cons, List.intercalate_cons_cons, hrest,
            ← List.append_assoc]

end Text

namespace Token

open Codec Text

/-! ### Segments -/

/-- A token is cut at its first dot and at its last. -/
theorem segments?_eq_some {token h p g : List Char} :
    segments? token = some (h, p, g) ↔
      token = h ++ '.' :: (p ++ '.' :: g) ∧ '.' ∉ h ∧ '.' ∉ g := by
  constructor
  · intro hsome
    unfold segments? at hsome
    split at hsome
    · next header first second more hsplit =>
      obtain ⟨init, last, hrest⟩ : ∃ init last, first :: second :: more = init ++ [last] :=
        ⟨_, _, (List.dropLast_append_getLast (List.cons_ne_nil first (second :: more))).symm⟩
      have hinit : init ≠ [] := by
        rintro rfl
        simp at hrest
      rw [hrest] at hsome hsplit
      obtain ⟨rfl, rfl, rfl⟩ : header = h ∧ ['.'].intercalate init = p ∧ last = g := by
        simpa [List.getLastD_concat] using hsome
      have hparts : ∀ part ∈ header :: (init ++ [last]), '.' ∉ part := fun part hpart =>
        notMem_of_mem_split (hsplit ▸ hpart)
      refine ⟨?_, hparts header (by simp), hparts last (by simp)⟩
      calc token
          = ['.'].intercalate ([header] ++ (init ++ [last])) := by
            rw [← intercalate_split '.' token, hsplit]
            rfl
        _ = ['.'].intercalate ([header] ++ init) ++ '.' :: last := by
            rw [← List.append_assoc, intercalate_concat (by simp)]
        _ = header ++ '.' :: (['.'].intercalate init ++ '.' :: last) := by
            obtain ⟨part, parts, rfl⟩ := List.exists_cons_of_ne_nil hinit
            simp [List.intercalate_cons_cons]
    · cases hsome
  · rintro ⟨rfl, hh, hg⟩
    obtain ⟨first, more, hp⟩ := List.exists_cons_of_ne_nil (split_ne_nil '.' p)
    have hsplit : split '.' (h ++ '.' :: (p ++ '.' :: g)) = h :: (first :: more ++ [g]) := by
      rw [split_append_cons, split_append_cons, split_of_notMem hh, split_of_notMem hg, hp]
      rfl
    have hclaims : ['.'].intercalate (first :: more) = p := by
      rw [← hp, intercalate_split]
    obtain ⟨second, rest, hrest⟩ : ∃ second rest, more ++ [g] = second :: rest :=
      List.exists_cons_of_ne_nil (by simp)
    have hdigest : (first :: second :: rest).getLastD [] = g := by
      rw [← hrest, ← List.cons_append, List.getLastD_concat]
    have hbefore : (first :: second :: rest).dropLast = first :: more := by
      rw [← hrest, ← List.cons_append, List.dropLast_concat]
    rw [segments?, hsplit, List.cons_append, hrest]
    simp only [hdigest, hbefore, hclaims]

/-! ### Signed tokens -/

section Flaws

variable {α : Type} {x : Option α} {a : α} {holds : Bool} {u : Unit}

@[simp]
theorem valid_eq_ok : valid x = .ok a ↔ x = some a := by
  cases x <;> simp [valid]

@[simp]
theorem require_eq_ok : require holds = .ok u ↔ holds = true := by
  cases holds <;> simp [require]

end Flaws

theorem surrogatesFrom?_ofChars (index : Nat) (cs : List Char) :
    surrogatesFrom? index (RawText.ofChars cs) = none := by
  induction cs generalizing index with
  | nil => rfl
  | cons c cs ih => exact ih (index + 1)

theorem characters_eq_ok {token : RawText} {cs : List Char} :
    characters token = .ok cs ↔ token = RawText.ofChars cs := by
  unfold characters
  constructor
  · intro h
    split at h
    · cases h
    · exact (RawText.ofChars_of_chars? (valid_eq_ok.mp h)).symm
  · rintro rfl
    rw [surrogatesFrom?_ofChars]
    exact valid_eq_ok.mpr (RawText.chars?_ofChars cs)

/-- A segment decodes to bytes, which are the UTF-8 of a text, which writes an object. -/
def Decodes (segment : List Char) (members : Json.Members) : Prop :=
  ∃ bytes text, ofBase64? segment = some bytes ∧ ofUtf8? bytes = some text ∧
    Json.read (some .standard) text = .ok (.object members)

theorem object_eq_ok {bytes : List UInt8} {members : Claims} :
    object bytes = .ok members ↔
      ∃ text, ofUtf8? bytes = some text ∧
        Json.read (some .standard) text = .ok (.object members) := by
  simp only [object, Except.bind_eq_ok, valid_eq_ok]
  refine exists_congr fun text => and_congr_right fun _ => ?_
  split
  · next ms hread => simp [hread]
  · next c hread => simp [hread]
  · next hother _ =>
    constructor
    · intro h
      cases h
    · intro h
      exact absurd h (hother members)

theorem decodes_iff {segment : List Char} {members : Claims} :
    Decodes segment members ↔
      ∃ bytes, ofBase64? segment = some bytes ∧ object bytes = .ok members := by
  simp only [Decodes, object_eq_ok, exists_and_left]

theorem namesAlgorithm_iff {header : Claims} :
    namesAlgorithm header = true ↔ header.get? "alg" = some (.text "HS256") := by
  unfold namesAlgorithm
  split
  · next name hname => simp [hname]
  · next hnone =>
    constructor
    · intro h
      cases h
    · intro h
      exact absurd h (hnone _)

/-- A token is its header, its claims and the digest of the two as they are written, with dots
between them; the header names the one algorithm in use. -/
def Signed (secret : String) (token : RawText) (claims : Claims) : Prop :=
  ∃ h p g : List Char, token = RawText.ofChars (h ++ '.' :: (p ++ '.' :: g)) ∧
    '.' ∉ h ∧ '.' ∉ g ∧
    ofBase64? g = some (digest secret (h ++ '.' :: p)) ∧
    (∃ header, Decodes h header ∧ header.get? "alg" = some (.text "HS256")) ∧
    Decodes p claims

theorem signed_eq_ok {secret : String} {token : RawText} {claims : Claims} :
    signed secret token = .ok claims ↔ Signed secret token claims := by
  simp only [signed, Except.bind_eq_ok, valid_eq_ok, require_eq_ok, characters_eq_ok,
    namesAlgorithm_iff, beq_iff_eq]
  constructor
  · rintro ⟨_, rfl, ⟨h, p, g⟩, hsegments, hbytes, hh, header, hheader, pbytes, hp, gbytes, hg, -,
      halgorithm, -, hdigest, hclaims⟩
    obtain ⟨rfl, hnoDot, hnoDot'⟩ := segments?_eq_some.mp hsegments
    exact ⟨h, p, g, rfl, hnoDot, hnoDot', hdigest ▸ hg,
      ⟨header, decodes_iff.mpr ⟨hbytes, hh, hheader⟩, halgorithm⟩,
      decodes_iff.mpr ⟨pbytes, hp, hclaims⟩⟩
  · rintro ⟨h, p, g, rfl, hnoDot, hnoDot', hg, ⟨header, hheader, halgorithm⟩, hclaims⟩
    obtain ⟨hbytes, hh, hheader⟩ := decodes_iff.mp hheader
    obtain ⟨pbytes, hp, hclaims⟩ := decodes_iff.mp hclaims
    exact ⟨_, rfl, (h, p, g), segments?_eq_some.mpr ⟨rfl, hnoDot, hnoDot'⟩, hbytes, hh, header,
      hheader, pbytes, hp, _, hg, (), halgorithm, (), rfl, hclaims⟩

/-- What is signed depends on the token alone. -/
theorem Signed.unique {secret : String} {token : RawText} {claims claims' : Claims}
    (h : Signed secret token claims) (h' : Signed secret token claims') : claims = claims' :=
  Except.ok.inj ((signed_eq_ok.mpr h).symm.trans (signed_eq_ok.mpr h'))

/-! ### Times -/

/-- A value sets a time: a number its integer part, and a text the integer that it spells. -/
inductive Sets : Json → Int → Prop
  | int (n : Int) : Sets (.int n) n
  | bool (b : Bool) : Sets (.bool b) (if b then 1 else 0)
  | real {x : Number.Binary64} {n : Int} (h : x.truncate? = some n) : Sets (.real x) n
  | text {s : RawText} {cs : List Char} {n : Int} (hs : s.chars? = some cs)
      (h : claimedInteger? cs = some n) : Sets (.text s) n

theorem time_eq_ok {v : Json} {n : Int} : time v = .ok n ↔ Sets v n := by
  constructor
  · intro h
    cases v with
    | null | array | object => cases h
    | bool b =>
        obtain rfl := Except.ok.inj h
        exact .bool b
    | int m =>
        obtain rfl := Except.ok.inj h
        exact .int m
    | real x =>
        cases x with
        | finite negative m e => exact .real (valid_eq_ok.mp h)
        | infinite negative | nan => cases h
    | text s =>
        obtain ⟨cs, hcs, hn⟩ := Option.bind_eq_some_iff.mp (valid_eq_ok.mp h)
        exact .text hcs hn
  · intro h
    cases h with
    | int | bool => rfl
    | @real x n h =>
        cases x with
        | finite negative m e => exact valid_eq_ok.mpr h
        | infinite negative | nan => cases h
    | text hs h => exact valid_eq_ok.mpr (Option.bind_eq_some_iff.mpr ⟨_, hs, h⟩)

theorem timeHolds_eq_ok {claims : Claims} {name : String} {p : Int → Bool} {u : Unit} :
    timeHolds claims name p = .ok u ↔
      ∀ v, claims.get? name = some v → ∃ t, Sets v t ∧ p t = true := by
  unfold timeHolds
  cases claims.get? name with
  | none => simp
  | some v => simp [Except.bind_eq_ok, time_eq_ok]

/-! ### Claims that hold -/

/-- Claims hold at a time. -/
structure Hold (now : Int) (claims : Claims) : Prop where
  issued : ∀ v, claims.get? "iat" = some v → ∃ t, Sets v t
  begun : ∀ v, claims.get? "nbf" = some v → ∃ t, Sets v t ∧ t ≤ now
  unexpired : ∀ v, claims.get? "exp" = some v → ∃ t, Sets v t ∧ now ≤ t
  /-- Nobody is named as the audience. -/
  audience : claims.get? "aud" = none
  subject : ∀ v, claims.get? "sub" = some v → ∃ s, v = .text s
  id : ∀ v, claims.get? "jti" = some v → ∃ s, v = .text s
  /-- No other token is tied to the claims. -/
  alone : claims.get? "at_hash" = none

theorem isText_iff {v : Json} : isText v = true ↔ ∃ s, v = .text s := by
  cases v <;> simp [isText]

theorem admission_eq_ok {now : Int} {claims : Claims} {u : Unit} :
    admission now claims = .ok u ↔ Hold now claims := by
  simp only [admission, Except.bind_eq_ok, timeHolds_eq_ok, require_eq_ok, ifPresent,
    Bool.and_eq_true, Option.all_eq_true, isText_iff, decide_eq_true_eq]
  have hnone : ∀ name, (∀ v, claims.get? name = some v → False) ↔ claims.get? name = none :=
    fun name => Option.eq_none_iff_forall_ne_some.symm
  simp only [Bool.false_eq_true, hnone]
  constructor
  · rintro ⟨-, hissued, -, hbegun, -, hunexpired, ⟨⟨haudience, hsubject⟩, hid⟩, halone⟩
    have hissued' : ∀ v, claims.get? "iat" = some v → ∃ t, Sets v t := by
      simpa using hissued
    exact ⟨hissued', hbegun, hunexpired, haudience, hsubject, hid, halone⟩
  · rintro ⟨hissued, hbegun, hunexpired, haudience, hsubject, hid, halone⟩
    exact ⟨(), by simpa using hissued, (), hbegun, (), hunexpired,
      ⟨⟨haudience, hsubject⟩, hid⟩, halone⟩

theorem Hold.of_between {t₁ t t₂ : Int} {claims : Claims} (h₁ : Hold t₁ claims)
    (h₂ : Hold t₂ claims) (hle : t₁ ≤ t) (hle' : t ≤ t₂) : Hold t claims where
  issued := h₁.issued
  begun v hv := by
    obtain ⟨n, hn, hbegun⟩ := h₁.begun v hv
    exact ⟨n, hn, hbegun.trans hle⟩
  unexpired v hv := by
    obtain ⟨n, hn, hexpires⟩ := h₂.unexpired v hv
    exact ⟨n, hn, hle'.trans hexpires⟩
  audience := h₁.audience
  subject := h₁.subject
  id := h₁.id
  alone := h₁.alone

/-- A token counts when it is signed and its claims hold. -/
theorem claims_eq_ok {s : Settings} {now : Int} {token : RawText} {cs : Claims} :
    claims s now token = .ok cs ↔ Signed s.secret token cs ∧ Hold now cs := by
  simp only [claims, Except.bind_eq_ok, signed_eq_ok, admission_eq_ok, Except.pure_eq_ok]
  constructor
  · rintro ⟨cs, hsigned, -, hholds, rfl⟩
    exact ⟨hsigned, hholds⟩
  · rintro ⟨hsigned, hholds⟩
    exact ⟨cs, hsigned, (), hholds, rfl⟩

/-! ### Whom a token gives access -/

/-- A token counts now, is one for access, and its subject names a customer. -/
def GivesAccess (s : Settings) (now : Int) (token : RawText) (user : Uuid) : Prop :=
  ∃ claims subject, claims? s now token = some claims ∧ claims ≠ [] ∧
    claims.get? "type" = some (.text "access") ∧ claims.get? "sub" = some (.text subject) ∧
      subject.string?.bind Uuid.ofSubject? = some user

theorem isForAccess_iff {claims : Claims} :
    isForAccess claims = true ↔ claims.get? "type" = some (.text "access") := by
  unfold isForAccess
  split
  · next kind htype => simp [htype]
  · next hnone =>
    constructor
    · intro h
      cases h
    · intro h
      exact absurd h (hnone _)

/-- What stands for the subject when there is none is no customer. -/
theorem subject_names {claims : Claims} {user : Uuid} :
    (subject claims).string?.bind Uuid.ofSubject? = some user ↔
      ∃ s : RawText, claims.get? "sub" = some (.text s) ∧
        s.string?.bind Uuid.ofSubject? = some user := by
  have hnone : (RawText.ofString "None").string?.bind Uuid.ofSubject? = none := by
    cbv
  unfold subject
  split
  · next s hs => simp [hs]
  · next hother =>
    rw [hnone]
    constructor
    · intro h
      cases h
    · rintro ⟨s, hs, -⟩
      exact absurd hs (hother s)

/-- A token is let in exactly when it gives access. -/
theorem customer_eq_ok {s : Settings} {now : Int} {token : RawText} {user : Uuid} :
    customer s now token = .ok user ↔ GivesAccess s now token user := by
  simp only [customer, Except.bind_eq_ok, Except.mapError_eq_ok, GivesAccess, claims?,
    Except.toOption_eq_some]
  constructor
  · rintro ⟨cs, hcs, h⟩
    by_cases haccess : isForAccess cs = true
    · have hsubject : (subject cs).string?.bind Uuid.ofSubject? = some user := by
        rw [if_pos haccess] at h
        split at h
        · next hu => simpa [hu] using h
        · cases h
      have htype := isForAccess_iff.mp haccess
      obtain ⟨sub, hsub, huser⟩ := subject_names.mp hsubject
      refine ⟨cs, sub, hcs, ?_, htype, hsub, huser⟩
      -- Where there are no claims there is no type.
      rintro rfl
      cases htype
    · rw [if_neg haccess] at h
      cases h
  · rintro ⟨cs, sub, hcs, -, htype, hsub, huser⟩
    refine ⟨cs, hcs, ?_⟩
    rw [if_pos (isForAccess_iff.mpr htype), subject_names.mpr ⟨sub, hsub, huser⟩]
    rfl

/-- Of the settings the secret alone decides whom a token gives access. -/
theorem GivesAccess.of_secret_eq {s s' : Settings} {now : Int} {token : RawText} {user : Uuid}
    (h : GivesAccess s now token user) (hsecret : s'.secret = s.secret) :
    GivesAccess s' now token user := by
  have hclaims : claims? s' now token = claims? s now token := by
    unfold claims? claims
    rw [hsecret]
  unfold GivesAccess
  rw [hclaims]
  exact h

/-- A token gives access to one customer. -/
theorem GivesAccess.unique {s : Settings} {now : Int} {token : RawText} {user user' : Uuid}
    (h : GivesAccess s now token user) (h' : GivesAccess s now token user') : user = user' := by
  have hsame := (customer_eq_ok.mpr h).symm.trans (customer_eq_ok.mpr h')
  exact Except.ok.inj hsame

/-! ### Tokens that count -/

/-- **A token that counts is signed as it is written, and counts for one stretch of time.**  Cut at
its first and its last dot it is a header, claims and a digest, where the header and the digest
have no dots.  The digest decodes to the keyed digest of what stands in front of it, the header to
an object that names the one algorithm in use, and the claims that count are those of the object
that the middle decodes to.  The time at which they expire, if they set one, is not past, and the
time at which they begin is not to come; of a time that is a fractional number its integer part is
held against the clock.  A token that counts at two times counts at all times between them, with
the same claims. -/
theorem counts_as_signed (s : Settings) (token : RawText) :
    (∀ now cs, claims s now token = .ok cs →
      (∃ h p g : List Char, token = RawText.ofChars (h ++ '.' :: (p ++ '.' :: g)) ∧
        '.' ∉ h ∧ '.' ∉ g ∧
        ofBase64? g = some (Hash.hmac (utf8 s.secret) (utf8 (String.ofList (h ++ '.' :: p)))) ∧
        (∃ header, Decodes h header ∧ header.get? "alg" = some (.text "HS256")) ∧
        Decodes p cs) ∧
      (∀ v, cs.get? "exp" = some v → ∃ t, Sets v t ∧ now ≤ t) ∧
      ∀ v, cs.get? "nbf" = some v → ∃ t, Sets v t ∧ t ≤ now) ∧
    ∀ t₁ t t₂ c₁ c₂, claims s t₁ token = .ok c₁ → claims s t₂ token = .ok c₂ → t₁ ≤ t → t ≤ t₂ →
      c₂ = c₁ ∧ claims s t token = .ok c₁ := by
  constructor
  · intro now cs h
    obtain ⟨hsigned, hholds⟩ := claims_eq_ok.mp h
    exact ⟨hsigned, hholds.unexpired, hholds.begun⟩
  · intro t₁ t t₂ c₁ c₂ h₁ h₂ hle hle'
    obtain ⟨hsigned, hholds⟩ := claims_eq_ok.mp h₁
    obtain ⟨hsigned', hholds'⟩ := claims_eq_ok.mp h₂
    obtain rfl : c₂ = c₁ := hsigned'.unique hsigned
    exact ⟨rfl, claims_eq_ok.mpr ⟨hsigned, hholds.of_between hholds' hle hle'⟩⟩

end Token

namespace Corner

open Token

/-- The first second of 2024. -/
def morning : Int := 1704067200

/-- A token with a dot in its claims, which begin half a second after the start of the morning and
expire a minute later. -/
def dotted : String :=
  "eyJhbGciOiJIUzI1NiIsInR5cCI6IkpXVCJ9" ++
    ".eyJu.YmYiOjE3MDQwNjcyMDAuNSwiZXhwIjoxNzA0MDY3MjYwICB9" ++
    ".LhPmcBnkrXKJwO8QDeceDBiJC3ljB1Q0PRqmXjpeBXQ"

/-- The claims of the token as they are written. -/
def dottedText : String := "\x7b\"nbf\":1704067200.5,\"exp\":1704067260\x7d"

/-- The one long evaluation: what the token is made of, and when its claims hold. -/
theorem signed_dotted :
    (signed Settings.standard.secret dotted).toOption.any (fun cs : Claims =>
      decide ((Json.object cs).render .compact = dottedText ∧
        (admission morning cs = .ok () ∧ admission (morning + 60) cs = .ok ()) ∧
        (cs.get? "nbf").isSome ∧ (cs.get? "exp").isSome)) = true := by
  decide +kernel

theorem claims_dotted :
    ∃ cs, claims .standard morning dotted = .ok cs ∧
      claims .standard (morning + 60) dotted = .ok cs ∧
      (Json.object cs).render .compact = dottedText ∧
      (∃ v, cs.get? "nbf" = some v) ∧ ∃ v, cs.get? "exp" = some v := by
  obtain ⟨cs, hcs, hread⟩ := (Option.any_eq_true ..).mp signed_dotted
  obtain ⟨htext, ⟨hstart, hstop⟩, hbegins, hexpires⟩ := of_decide_eq_true hread
  have hsigned := signed_eq_ok.mp (Except.toOption_eq_some.mp hcs)
  exact ⟨cs, claims_eq_ok.mpr ⟨hsigned, admission_eq_ok.mp hstart⟩,
    claims_eq_ok.mpr ⟨hsigned, admission_eq_ok.mp hstop⟩, htext,
    Option.isSome_iff_exists.mp hbegins, Option.isSome_iff_exists.mp hexpires⟩

end Corner

/-- The token with a dot in its claims counts from the start of the morning, half a second before
its claims begin. -/
theorem dotted_token_counts :
    (∃ cs, Token.claims .standard 1704067200 Corner.dotted = .ok cs ∧
      (Json.object cs).render .compact = "\x7b\"nbf\":1704067200.5,\"exp\":1704067260\x7d") ∧
      Corner.dotted.toList.count '.' = 3 := by
  obtain ⟨cs, hstart, -, htext, -⟩ := Corner.claims_dotted
  exact ⟨⟨cs, hstart, htext⟩, by decide +kernel⟩

/-- The token with a dot in its claims counts for a minute. -/
theorem counts_as_signed_dotted :
    ∃ cs, Token.claims .standard (Corner.morning + 30) Corner.dotted = .ok cs ∧
      (∃ v t, cs.get? "exp" = some v ∧ Token.Sets v t ∧ Corner.morning ≤ t) ∧
      ∃ v t, cs.get? "nbf" = some v ∧ Token.Sets v t ∧ t ≤ Corner.morning := by
  obtain ⟨hsigned, hstretch⟩ := Token.counts_as_signed .standard Corner.dotted
  obtain ⟨cs, hstart, hstop, -, ⟨v, hv⟩, v', hv'⟩ := Corner.claims_dotted
  obtain ⟨-, hunexpired, hbegun⟩ := hsigned _ _ hstart
  obtain ⟨-, hbetween⟩ := hstretch _ (Corner.morning + 30) _ _ _ hstart hstop (by decide)
    (by decide)
  obtain ⟨t, ht, hbegins⟩ := hbegun v hv
  obtain ⟨t', ht', hexpires⟩ := hunexpired v' hv'
  exact ⟨cs, hbetween, ⟨v', t', hv', ht', hexpires⟩, v, t, hv, ht, hbegins⟩

end Storefront
