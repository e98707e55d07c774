import FakeBolt.AuthService
import FakeBolt.Base64Url
import FakeBolt.GatewayService
import FakeBolt.JsonText
import FakeBolt.PercentEncoding

/-!
# The text of a token

`jsonwebtoken` signs the compact form of a token: the header, the claims and
the signature, each as Base64 for URLs.  The gateway reads the claims of a
token that it has verified; the seed reads the user's id out of one without
verifying it.  The signature is that of the shared secret, which is left to the
caller.
-/

namespace FakeBolt.Auth

open JsonText Profile
open Gateway (JwtPayload JwtService)

/-! ## Signing -/

structure TokenSigner where
  hmac : List Char → List UInt8
  /-- In seconds. -/
  expiresIn : ℕ

def JWT_HEADER : List (String × Scalar) :=
  [("alg", .string "HS256"), ("typ", .string "JWT")]

def segment (members : List (String × Scalar)) : List Char :=
  Base64Url.encode (Url.utf8 (writeObject members))

namespace TokenSigner

variable (signer : TokenSigner)

/-- Times in a token are in seconds. -/
def claims (issued : Instant) (payload : TokenPayload) :
    List (String × Scalar) :=
  let iat := (issued / 1000).toNat
  [("sub", .string payload.sub), ("email", .string payload.email),
    ("role", .string payload.role.value), ("iat", .natural iat),
    ("exp", .natural (iat + signer.expiresIn))]

def signed (issued : Instant) (payload : TokenPayload) : List Char :=
  segment JWT_HEADER ++ '.' :: segment (signer.claims issued payload)

def sign (issued : Instant) (payload : TokenPayload) : String :=
  String.ofList (signer.signed issued payload ++
    '.' :: Base64Url.encode (signer.hmac (signer.signed issued payload)))

end TokenSigner

/-! ## Reading -/

/-- `Buffer.from(segment, 'base64url').toString('utf8')`, parsed; nothing where
that throws, and nothing for bytes that are not UTF-8. -/
def readSegment (segment : List Char) : Option Json :=
  (Url.fromUtf8? (Base64Url.decode segment)).bind parse

/-- `userIdFromToken` of the seed: nothing if it throws, otherwise the `sub` of
the claims, which may be undefined. -/
def userIdFromToken (token : String) : Option (Option Json) := do
  let payload ← (token.toList.splitOn '.')[1]?
  let claims ← readSegment payload
  match claims with
  | .null => none
  | _ => some (claims.member? "sub")

def stringMember (name : String) (claims : Json) : Option String :=
  match claims.member? name with
  | some (.string value) => some value
  | _ => none

namespace TokenSigner

variable (signer : TokenSigner)

def payload (token : String) : JwtPayload :=
  match (token.toList.splitOn '.')[1]?.bind readSegment with
  | none => ⟨none, none, none⟩
  | some claims =>
      { sub := stringMember "sub" claims
        email := stringMember "email" claims
        role := stringMember "role" claims }

/-- The signature is checked first, then the time. -/
def refuses (now : Instant) (token : String) : Option JsError :=
  match token.toList.splitOn '.' with
  | [header, claims, signature] =>
      if signature ≠ Base64Url.encode (signer.hmac (header ++ '.' :: claims)) then
        some (.error "invalid signature")
      else
        match (readSegment claims).bind (Json.member? "exp") with
        | some (.number exp) =>
            if exp ≤ ((now / 1000 : ℤ) : ℚ) then some (.error "jwt expired")
            else none
        | _ => some (.error "invalid exp value")
  | _ => some (.error "jwt malformed")

def jwtService : JwtService where
  payload := payload
  refuses := signer.refuses

@[simp] theorem jwtService_payload : signer.jwtService.payload = payload :=
  rfl

@[simp] theorem jwtService_refuses :
    signer.jwtService.refuses = signer.refuses := rfl

end TokenSigner

/-! ## A signed token is read back -/

def isTokenChar (c : Char) : Bool :=
  c.isAlphanum || c == '-' || c == '_' || c == '.'

/-- The `JWT_SECRET` of auth-service is that of the gateway; times are in
milliseconds, `expiresIn` and the times in a token in seconds. -/
structure SharesSecret (sign : Instant → TokenPayload → String)
    (jwt : JwtService) (expiresIn : ℤ) : Prop where
  payload : ∀ issued payload, jwt.payload (sign issued payload) =
    { sub := some payload.sub
      email := some payload.email
      role := some payload.role.value }
  accepted : ∀ issued payload now, now / 1000 < issued / 1000 + expiresIn →
    jwt.refuses now (sign issued payload) = none
  chars : ∀ issued payload, ∀ c ∈ (sign issued payload).toList,
    isTokenChar c = true
  nonempty : ∀ issued payload, sign issued payload ≠ ""

theorem isTokenChar_of_mem_alphabet {c : Char}
    (hc : c ∈ Base64Url.alphabet) : isTokenChar c = true ∧ c ≠ '.' := by
  have hall : Base64Url.alphabet.all
      (fun c => isTokenChar c && c != '.') = true := by
    decide +kernel
  simpa using List.all_eq_true.mp hall c hc

theorem not_mem_encode (octets : List UInt8) :
    '.' ∉ Base64Url.encode octets := by
  intro hmem
  have halphabet := Base64Url.mem_alphabet_of_encode '.' hmem
  exact (isTokenChar_of_mem_alphabet halphabet).2 rfl

theorem not_mem_segment (members : List (String × Scalar)) :
    '.' ∉ segment members :=
  not_mem_encode _

theorem readSegment_segment (members : List (String × Scalar)) :
    readSegment (segment members) = some (.object (members.map memberJson)) := by
  unfold readSegment segment
  rw [Base64Url.decode_encode, Url.fromUtf8?_utf8, Option.bind_some,
    parse_writeObject]

section Signed

variable (signer : TokenSigner) (issued : Instant) (payload : TokenPayload)

theorem split_sign :
    (signer.sign issued payload).toList.splitOn '.' =
      [segment JWT_HEADER, segment (signer.claims issued payload),
        Base64Url.encode (signer.hmac (signer.signed issued payload))] := by
  have hsigned : signer.signed issued payload ++
        '.' :: Base64Url.encode (signer.hmac (signer.signed issued payload)) =
      segment JWT_HEADER ++ '.' :: (segment (signer.claims issued payload) ++
        '.' :: Base64Url.encode (signer.hmac (signer.signed issued payload))) := by
    simp [TokenSigner.signed]
  rw [TokenSigner.sign, String.toList_ofList, hsigned,
    List.splitOn_append_cons_self, List.splitOn_append_cons_self,
    List.splitOn_eq_singleton (not_mem_segment _),
    List.splitOn_eq_singleton (not_mem_segment _),
    List.splitOn_eq_singleton (not_mem_encode _), List.singleton_append,
    List.singleton_append]

theorem member?_claims :
    let claims := Json.object ((signer.claims issued payload).map memberJson)
    claims.member? "sub" = some (.string payload.sub) ∧
      claims.member? "email" = some (.string payload.email) ∧
      claims.member? "role" = some (.string payload.role.value) ∧
      claims.member? "exp" =
        some (.number ((issued / 1000).toNat + signer.expiresIn : ℕ)) :=
  ⟨rfl, rfl, rfl, rfl⟩

theorem userIdFromToken_sign :
    userIdFromToken (signer.sign issued payload) =
      some (some (.string payload.sub)) := by
  unfold userIdFromToken
  rw [split_sign]
  simp only [List.getElem?_cons_succ, List.getElem?_cons_zero,
    Option.bind_eq_bind, Option.bind_some, readSegment_segment]
  rw [(member?_claims signer issued payload).1]

theorem payload_sign :
    TokenSigner.payload (signer.sign issued payload) =
      { sub := some payload.sub
        email := some payload.email
        role := some payload.role.value } := by
  obtain ⟨hsub, hemail, hrole, -⟩ := member?_claims signer issued payload
  unfold TokenSigner.payload
  rw [split_sign]
  simp only [List.getElem?_cons_succ, List.getElem?_cons_zero,
    Option.bind_some, readSegment_segment, stringMember, hsub, hemail, hrole]

theorem refuses_sign {now : Instant}
    (hfresh : now / 1000 < issued / 1000 + signer.expiresIn) :
    signer.refuses now (signer.sign issued payload) = none := by
  obtain ⟨-, -, -, hexp⟩ := member?_claims signer issued payload
  have htime : ¬ (((issued / 1000).toNat + signer.expiresIn : ℕ) : ℚ) ≤
      ((now / 1000 : ℤ) : ℚ) := by
    rw [not_le]
    have hint : (now / 1000 : ℤ) <
        (((issued / 1000).toNat + signer.expiresIn : ℕ) : ℤ) := by
      rw [Nat.cast_add]
      exact lt_of_lt_of_le hfresh
        (add_le_add (Int.self_le_toNat _) (le_refl _))
    exact_mod_cast hint
  have hsame : segment JWT_HEADER ++
      '.' :: segment (signer.claims issued payload) =
        signer.signed issued payload := rfl
  unfold TokenSigner.refuses
  rw [split_sign]
  simp only [hsame, ne_eq, not_true_eq_false, if_false, readSegment_segment,
    Option.bind_some, hexp, if_neg htime]

end Signed

theorem isTokenChar_of_sign (signer : TokenSigner) (issued : Instant)
    (payload : TokenPayload) :
    ∀ c ∈ (signer.sign issued payload).toList, isTokenChar c = true := by
  intro c hc
  rw [TokenSigner.sign, String.toList_ofList, TokenSigner.signed,
    List.mem_append, List.mem_append, List.mem_cons, List.mem_cons] at hc
  have hencoded : ∀ octets, c ∈ Base64Url.encode octets →
      isTokenChar c = true := fun octets hmem =>
    (isTokenChar_of_mem_alphabet (Base64Url.mem_alphabet_of_encode c hmem)).1
  rcases hc with (hheader | hdot | hclaims) | hdot | hsignature
  · exact hencoded _ hheader
  · rw [hdot]
    decide
  · exact hencoded _ hclaims
  · rw [hdot]
    decide
  · exact hencoded _ hsignature

theorem sign_ne_empty (signer : TokenSigner) (issued : Instant)
    (payload : TokenPayload) : signer.sign issued payload ≠ "" := by
  intro hempty
  have hchars := congrArg String.toList hempty
  rw [TokenSigner.sign, String.toList_ofList] at hchars
  exact absurd hchars (List.append_ne_nil_of_right_ne_nil _ (List.cons_ne_nil _ _))

/-- A gateway with the same secret reads in a token what was signed, and
accepts it until it expires. -/
theorem sharesSecret (signer : TokenSigner) :
    SharesSecret signer.sign signer.jwtService signer.expiresIn where
  payload := by
    intro issued payload
    rw [TokenSigner.jwtService_payload]
    exact payload_sign signer issued payload
  accepted := by
    intro issued payload now hfresh
    rw [TokenSigner.jwtService_refuses]
    exact refuses_sign signer issued payload hfresh
  chars := isTokenChar_of_sign signer
  nonempty := sign_ne_empty signer

end FakeBolt.Auth
