import FakeBolt.PhotoIntegrity

/-!
# Which photos are confirmed

`confirmPhoto` when no call fails: which keys it accepts, what it then
changes, and what a rejection leaves.  Whether S3 serves the first bytes of
an empty object or refuses the range is left open.
-/

namespace FakeBolt.Profile

open Await Kafka Store ProfileService

/-- `ProfileWorld.answer` for either way of reading an empty object: its no
bytes, or an error. -/
def ProfileWorld.reading (emptyRead : Option JsError) :
    (call : ProfileCall) → ProfileWorld →
      Except JsError call.Reply × ProfileWorld
  | .getObject key count, world =>
      match world.objects.lookup key with
      | some object =>
          if object.bytes = [] then
            match emptyRead with
            | some error => (.error error, world)
            | none => (.ok [], world)
          else (.ok (object.bytes.take count), world)
      | none => (.error (.s3 (some 404) "NoSuchKey"), world)
  | call, world => world.answer call

/-! ## Signatures -/

theorem startsWith_iff {bytes signature : List UInt8} {offset : ℕ} :
    startsWith bytes signature offset = true ↔
      signature <+: bytes.drop offset := by
  rw [List.prefix_iff_getElem?]
  unfold startsWith
  rw [List.all_eq_true]
  constructor
  · intro hall i hi
    have hmem : (signature[i], i) ∈ signature.zipIdx := by
      rw [List.mem_zipIdx_iff_getElem?]
      exact List.getElem?_eq_getElem hi
    have hbyte := hall _ hmem
    rw [beq_iff_eq] at hbyte
    rw [List.getElem?_drop]
    exact hbyte
  · rintro hprefix ⟨value, i⟩ hmem
    rw [List.mem_zipIdx_iff_getElem?] at hmem
    obtain ⟨hi, hvalue⟩ := List.getElem?_eq_some_iff.mp hmem
    have hbyte := hprefix i hi
    rw [List.getElem?_drop] at hbyte
    rw [beq_iff_eq, hbyte]
    exact congrArg some hvalue

/-- The signature is already in the first bytes. -/
theorem startsWith_take {bytes signature : List UInt8} {offset count : ℕ}
    (hcount : offset + signature.length ≤ count) :
    startsWith (bytes.take count) signature offset = true ↔
      signature <+: bytes.drop offset := by
  rw [startsWith_iff, List.drop_take, List.prefix_take_iff]
  have hfits : signature.length ≤ count - offset := by omega
  simp [hfits]

/-- The file begins with the signature of its content type. -/
def BeginsWithSignature (contentType : String) (bytes : List UInt8) : Prop :=
  (contentType = "image/jpeg" ∧ [0xff, 0xd8, 0xff] <+: bytes) ∨
  (contentType = "image/png" ∧
    [0x89, 0x50, 0x4e, 0x47, 0x0d, 0x0a, 0x1a, 0x0a] <+: bytes) ∨
  (contentType = "image/webp" ∧ [0x52, 0x49, 0x46, 0x46] <+: bytes ∧
    [0x57, 0x45, 0x42, 0x50] <+: bytes.drop 8)

theorem matchesImageSignature_take_iff {contentType : String}
    {bytes : List UInt8} :
    matchesImageSignature contentType (bytes.take SIGNATURE_BYTES) = true ↔
      BeginsWithSignature contentType bytes := by
  unfold matchesImageSignature BeginsWithSignature
  split
  · rename_i hpng
    subst hpng
    rw [startsWith_take (by decide)]
    simp
  · split
    · rename_i hjpeg
      subst hjpeg
      rw [startsWith_take (by decide)]
      simp
    · split
      · rename_i hwebp
        subst hwebp
        rw [Bool.and_eq_true, startsWith_take (by decide),
          startsWith_take (by decide)]
        simp
      · rename_i hpng hjpeg hwebp
        simp [hpng, hjpeg, hwebp]

/-! ## The signatures as data -/

/-- Where the check of a type looks, and the bytes it wants there. -/
def signatureParts (contentType : String) : List (ℕ × List UInt8) :=
  if contentType = "image/png" then
    [(0, [0x89, 0x50, 0x4e, 0x47, 0x0d, 0x0a, 0x1a, 0x0a])]
  else if contentType = "image/jpeg" then
    [(0, [0xff, 0xd8, 0xff])]
  else if contentType = "image/webp" then
    [(0, [0x52, 0x49, 0x46, 0x46]), (8, [0x57, 0x45, 0x42, 0x50])]
  else []

/-- How much of a file, from its start, those parts cover. -/
def signatureExtent (contentType : String) : ℕ :=
  ((signatureParts contentType).map fun (offset, signature) =>
    offset + signature.length).foldr max 0

theorem matchesImageSignature_iff_parts {contentType : String}
    (hallowed : contentType ∈ ALLOWED_PHOTO_TYPES) {bytes : List UInt8} :
    matchesImageSignature contentType bytes = true ↔
      ∀ part ∈ signatureParts contentType,
        startsWith bytes part.2 part.1 = true := by
  simp only [ALLOWED_PHOTO_TYPES, List.mem_cons, List.not_mem_nil,
    or_false] at hallowed
  rcases hallowed with rfl | rfl | rfl <;>
    simp [matchesImageSignature, signatureParts]

theorem end_le_signatureExtent {contentType : String}
    {part : ℕ × List UInt8} (hpart : part ∈ signatureParts contentType) :
    part.1 + part.2.length ≤ signatureExtent contentType := by
  unfold signatureExtent
  generalize signatureParts contentType = parts at hpart
  induction parts with
  | nil => cases hpart
  | cons first rest ih =>
      rw [List.map_cons, List.foldr_cons]
      rcases List.mem_cons.mp hpart with rfl | hrest
      · exact le_max_left _ _
      · exact (ih hrest).trans (le_max_right _ _)

/-- The ranged read of a confirmation fetches all that is compared. -/
theorem signatureExtent_le (contentType : String) :
    signatureExtent contentType ≤ SIGNATURE_BYTES := by
  unfold signatureExtent signatureParts
  split_ifs <;> decide

theorem startsWith_take_eq {bytes signature : List UInt8} {offset count : ℕ}
    (hcount : offset + signature.length ≤ count) :
    startsWith (bytes.take count) signature offset =
      startsWith bytes signature offset := by
  rw [Bool.eq_iff_iff, startsWith_take hcount, startsWith_iff]

theorem length_of_startsWith {bytes signature : List UInt8} {offset : ℕ}
    (hnonempty : signature ≠ [])
    (hstarts : startsWith bytes signature offset = true) :
    offset + signature.length ≤ bytes.length := by
  have hlength := (startsWith_iff.mp hstarts).length_le
  have hpositive := List.length_pos_of_ne_nil hnonempty
  rw [List.length_drop] at hlength
  omega

theorem signatureParts_ne_nil {contentType : String} :
    ∀ part ∈ signatureParts contentType, part.2 ≠ [] := by
  unfold signatureParts
  split_ifs <;> simp

theorem matchesImageSignature_take {contentType : String}
    (hallowed : contentType ∈ ALLOWED_PHOTO_TYPES) (bytes : List UInt8) :
    matchesImageSignature contentType (bytes.take SIGNATURE_BYTES) =
      matchesImageSignature contentType bytes := by
  rw [Bool.eq_iff_iff, matchesImageSignature_iff_parts hallowed,
    matchesImageSignature_iff_parts hallowed]
  apply forall₂_congr
  intro part hpart
  rw [startsWith_take_eq
    ((end_le_signatureExtent hpart).trans (signatureExtent_le contentType))]

theorem signatureExtent_le_length {contentType : String}
    (hallowed : contentType ∈ ALLOWED_PHOTO_TYPES) {bytes : List UInt8}
    (hmatches : matchesImageSignature contentType bytes = true) :
    signatureExtent contentType ≤ bytes.length := by
  rw [matchesImageSignature_iff_parts hallowed] at hmatches
  have hends : ∀ part ∈ signatureParts contentType,
      part.1 + part.2.length ≤ bytes.length :=
    fun part hpart => length_of_startsWith (signatureParts_ne_nil part hpart)
      (hmatches part hpart)
  unfold signatureExtent
  generalize signatureParts contentType = parts at hends
  induction parts with
  | nil => exact Nat.zero_le _
  | cons first rest ih =>
      rw [List.map_cons, List.foldr_cons]
      apply max_le (hends first List.mem_cons_self)
      exact ih fun part hpart => hends part (List.mem_cons_of_mem _ hpart)

/-- The byte that tells the allowed types apart. -/
def leadingByte (contentType : String) : Option UInt8 :=
  (signatureParts contentType).head?.bind fun part => part.2.head?

theorem head?_of_matches {contentType : String}
    (hallowed : contentType ∈ ALLOWED_PHOTO_TYPES) {bytes : List UInt8}
    (hmatches : matchesImageSignature contentType bytes = true) :
    bytes.head? = leadingByte contentType := by
  rw [matchesImageSignature_iff_parts hallowed] at hmatches
  simp only [ALLOWED_PHOTO_TYPES, List.mem_cons, List.not_mem_nil,
    or_false] at hallowed
  rcases hallowed with rfl | rfl | rfl <;>
    simp only [signatureParts, leadingByte] at hmatches ⊢ <;>
    simp only [startsWith_iff] at hmatches <;>
    obtain ⟨rest, rfl⟩ := hmatches _ List.mem_cons_self <;>
    rfl

theorem leadingByte_injective {contentType other : String}
    (hallowed : contentType ∈ ALLOWED_PHOTO_TYPES)
    (hother : other ∈ ALLOWED_PHOTO_TYPES)
    (hbyte : leadingByte contentType = leadingByte other) :
    contentType = other := by
  simp only [ALLOWED_PHOTO_TYPES, List.mem_cons, List.not_mem_nil,
    or_false] at hallowed hother
  rcases hallowed with rfl | rfl | rfl <;> rcases hother with rfl | rfl | rfl <;>
    first
      | rfl
      | exact absurd hbyte (by decide)

/-- The first `SIGNATURE_BYTES` bytes of a file decide its type. -/
theorem matchesImageSignature_decided_by_first_bytes {contentType : String}
    (hallowed : contentType ∈ ALLOWED_PHOTO_TYPES) (bytes : List UInt8) :
    matchesImageSignature contentType bytes =
        matchesImageSignature contentType (bytes.take SIGNATURE_BYTES) ∧
      (bytes.length < signatureExtent contentType →
        matchesImageSignature contentType bytes = false) ∧
      ∀ other ∈ ALLOWED_PHOTO_TYPES,
        matchesImageSignature contentType bytes = true →
        matchesImageSignature other bytes = true → other = contentType := by
  refine ⟨(matchesImageSignature_take hallowed bytes).symm, ?_, ?_⟩
  · intro hshort
    rw [← Bool.not_eq_true]
    intro hmatches
    have hlength := signatureExtent_le_length hallowed hmatches
    omega
  · intro other hother hmatches hmatchesOther
    apply leadingByte_injective hother hallowed
    rw [← head?_of_matches hother hmatchesOther,
      ← head?_of_matches hallowed hmatches]

theorem webp_decided_by_first_bytes :
    "image/webp" ∈ ALLOWED_PHOTO_TYPES ∧ (∀ bytes : List UInt8,
      matchesImageSignature "image/webp" bytes =
        matchesImageSignature "image/webp" (bytes.take SIGNATURE_BYTES)) ∧
      matchesImageSignature "image/webp" [0x52, 0x49, 0x46, 0x46] = false := by
  have hallowed : "image/webp" ∈ ALLOWED_PHOTO_TYPES := by decide
  refine ⟨hallowed, fun bytes =>
    (matchesImageSignature_decided_by_first_bytes hallowed bytes).1, ?_⟩
  exact (matchesImageSignature_decided_by_first_bytes hallowed
    [0x52, 0x49, 0x46, 0x46]).2.1 (by decide)

/-- What `confirmPhoto` asks of a key: it is the user's own and names an
uploaded image of an allowed type and size. -/
structure Confirmable (world : ProfileWorld) (userId key : String) : Prop where
  user : (world.users.get? userId).isSome
  own : (photoPrefix userId).toList <+: key.toList
  photo : ∃ object, world.objects.lookup key = some object ∧
    object.contentType ∈ ALLOWED_PHOTO_TYPES ∧
    object.bytes.length ≤ MAX_PHOTO_BYTES ∧
    BeginsWithSignature object.contentType object.bytes

theorem validObject_iff {object : S3Object} :
    ValidObject object ↔ object.contentType ∈ ALLOWED_PHOTO_TYPES ∧
      object.bytes.length ≤ MAX_PHOTO_BYTES ∧
      BeginsWithSignature object.contentType object.bytes := by
  rw [ValidObject, matchesImageSignature_take_iff]

/-! ## The parts of a confirmation -/

section Parts

variable (emptyRead : Option JsError) (userId key : String)
  (world : ProfileWorld)

theorem reading_findUser :
    (findUser userId).exec (ProfileWorld.reading emptyRead) world =
      (match world.users.get? userId with
        | none => .error (.http .notFound "User not found")
        | some user => .ok user, world) := by
  simp only [findUser, UsersRepository.findOne, Program.exec_bind,
    Program.exec_call, ProfileWorld.reading, ProfileWorld.answer]
  cases world.users.get? userId with
  | none => rfl
  | some user => rfl

theorem reading_deleteFromS3 :
    (deleteFromS3 key).exec (ProfileWorld.reading emptyRead) world =
      (.ok (), { world with objects := world.objects.erase key }) := by
  simp only [deleteFromS3, S3Service.deleteObject, Program.exec_tryCatch,
    Program.exec_call, ProfileWorld.reading, ProfileWorld.answer]

theorem reading_headObject :
    (S3Service.headObject key).exec (ProfileWorld.reading emptyRead) world =
      (.ok ((world.objects.lookup key).map fun object =>
        ⟨object.contentType, some object.bytes.length⟩), world) := by
  simp only [S3Service.headObject, Program.exec_tryCatch, Program.exec_bind,
    Program.exec_call, ProfileWorld.reading, ProfileWorld.answer]
  cases world.objects.lookup key with
  | none => rfl
  | some object => rfl

theorem reading_readFirstBytes {object : S3Object}
    (hobject : world.objects.lookup key = some object) :
    (S3Service.readFirstBytes key SIGNATURE_BYTES).exec
        (ProfileWorld.reading emptyRead) world =
      (.ok (object.bytes.take SIGNATURE_BYTES), world) ∨
    (object.bytes = [] ∧ ∃ error,
      (S3Service.readFirstBytes key SIGNATURE_BYTES).exec
        (ProfileWorld.reading emptyRead) world = (.error error, world)) := by
  simp only [S3Service.readFirstBytes, Program.exec_call, ProfileWorld.reading,
    hobject]
  by_cases hempty : object.bytes = []
  · rw [if_pos hempty, hempty]
    cases emptyRead with
    | none => exact Or.inl rfl
    | some error => exact Or.inr ⟨rfl, error, rfl⟩
  · rw [if_neg hempty]
    exact Or.inl rfl

/-- How the checks of the uploaded object end: only one that fails a check is
removed. -/
inductive Checked : Except JsError Unit → ProfileWorld → Prop
  | passed {object} (hobject : world.objects.lookup key = some object)
      (hvalid : ValidObject object) : Checked (.ok ()) world
  | refused {error}
      (hinvalid : ∀ object, world.objects.lookup key = some object →
        ¬ ValidObject object) : Checked (.error error) world
  | removed {object error} (hobject : world.objects.lookup key = some object)
      (hinvalid : ¬ ValidObject object) :
      Checked (.error error)
        { world with objects := world.objects.erase key }

theorem checked_checkObject :
    Checked key world
      ((checkObject key).exec (ProfileWorld.reading emptyRead) world).1
      ((checkObject key).exec (ProfileWorld.reading emptyRead) world).2 := by
  unfold checkObject
  rw [Program.exec_bind, reading_headObject]
  cases hobject : world.objects.lookup key with
  | none =>
      apply Checked.refused
      intro object hsome
      rw [hobject] at hsome
      cases hsome
  | some object =>
      simp only [Option.map_some]
      split
      · rename_i hbad
        rw [Program.exec_bind, reading_deleteFromS3]
        apply Checked.removed hobject
        rintro ⟨htype, hlength, -⟩
        rcases hbad with hnot | hlong
        · simp [htype] at hnot
        · simp only [Option.getD_some] at hlong
          omega
      · rename_i hgood
        simp only [not_or, Bool.not_eq_false, List.contains_eq_mem,
          decide_eq_true_eq, Option.getD_some, gt_iff_lt, not_lt] at hgood
        rw [Program.exec_bind]
        rcases reading_readFirstBytes emptyRead key world hobject with
          hread | ⟨hempty, error, hread⟩
        · rw [hread]
          simp only
          split
          · rename_i hfake
            rw [Program.exec_bind, reading_deleteFromS3]
            apply Checked.removed hobject
            rintro ⟨-, -, hsignature⟩
            rw [hfake] at hsignature
            cases hsignature
          · rename_i hreal
            rw [Bool.not_eq_false] at hreal
            exact .passed hobject ⟨hgood.1, hgood.2, hreal⟩
        · rw [hread]
          apply Checked.refused
          intro found hfound
          rw [hobject] at hfound
          cases hfound
          rintro ⟨-, -, hsignature⟩
          rw [hempty, List.take_nil, matchesImageSignature_nil] at hsignature
          cases hsignature

/-- What storing a checked key does: the row gets the key, and the object of
the key it had before goes. -/
structure Stored (user : UserEntity) (after : ProfileWorld) : Prop where
  row : after.users.get? userId = some { user with photoKey := some key }
  others : ∀ id, id ≠ userId → after.users.get? id = world.users.get? id
  gone : ∀ previous, user.photoKey = some previous → previous ≠ "" →
    previous ≠ key → after.objects.lookup previous = none
  kept : ∀ stays, user.photoKey ≠ some stays ∨ stays = key →
    after.objects.lookup stays = world.objects.lookup stays

variable {userId}

theorem reading_storeKey {user : UserEntity}
    (hget : world.users.get? userId = some user) :
    ∃ users objects, (storeKey user userId key).exec
        (ProfileWorld.reading emptyRead) world =
      (.ok (), { world with users := users, objects := objects }) ∧
      Stored userId key world user
        { world with users := users, objects := objects } := by
  unfold storeKey
  by_cases hsame : user.photoKey = some key
  · refine ⟨world.users, world.objects, by simp [hsame], ?_⟩
    constructor
    · rw [hget, ← hsame]
    · exact fun _ _ => rfl
    · intro previous hprevious _ hne
      rw [hsame] at hprevious
      cases hprevious
      exact (hne rfl).elim
    · exact fun _ _ => rfl
  · have hrow := get?_update_photoKey (some key) hget
    have hothers : ∀ id, id ≠ userId →
        (world.users.update userId { photoKey := some key }).get? id =
          world.users.get? id :=
      fun id hid => Table.get?_update_of_ne _ _ hid
    rw [if_pos hsame, Program.exec_bind, UsersRepository.update,
      Program.exec_call]
    simp only [ProfileWorld.reading, ProfileWorld.answer]
    cases hprevious : truthy user.photoKey with
    | none =>
        refine ⟨_, _, rfl, hrow, hothers, ?_, fun _ _ => rfl⟩
        intro previous hkey hnonempty _
        rw [truthy_eq_some_iff.mpr ⟨hkey, hnonempty⟩] at hprevious
        cases hprevious
    | some previousKey =>
        have hkey := (truthy_eq_some_iff.mp hprevious).1
        rw [reading_deleteFromS3]
        refine ⟨_, _, rfl, hrow, hothers, ?_, ?_⟩
        · intro previous hold _ _
          rw [hkey] at hold
          cases hold
          exact Finmap.lookup_erase _ _
        · intro stays hstays
          apply Finmap.lookup_erase_ne
          intro heq
          subst heq
          rcases hstays with hother | hself
          · exact hother hkey
          · rw [hself] at hkey
            exact hsame hkey

/-- The end of a confirmation: one event, and the profile as it now is. -/
theorem reading_announce (config : S3Config) (now : Instant)
    (user : UserEntity) {after : ProfileWorld} {stored : UserEntity}
    (hget : after.users.get? userId = some stored) :
    ∃ profile, (do publishPhotoUpdated now user true
                   getProfile config userId : ProfileM UserProfile).exec
        (ProfileWorld.reading emptyRead) after =
      (.ok profile, { after with
        published := after.published ++ [photoRecord now user true] }) := by
  simp only [publishPhotoUpdated, KafkaProducer.publish, getProfile,
    Program.exec_bind, Program.exec_call, ProfileWorld.reading,
    ProfileWorld.answer, reading_findUser, hget]
  exact ⟨_, rfl⟩

end Parts

/-! ## Whole calls -/

/-- The profile is returned, and the key is the user's photo. -/
structure Confirmed (now : Instant) (userId key : String) (world : ProfileWorld)
    (user : UserEntity) (after : ProfileWorld) : Prop where
  stored : Stored userId key world user after
  published : after.published =
    world.published ++ [photoRecord now user true]

/-- How a confirmation ends. -/
inductive ConfirmationEnds (now : Instant) (userId key : String)
    (world : ProfileWorld) :
    Except JsError UserProfile → ProfileWorld → Prop
  | confirmed {profile user after} (hconfirmable : Confirmable world userId key)
      (hget : world.users.get? userId = some user)
      (hconfirmed : Confirmed now userId key world user after) :
      ConfirmationEnds now userId key world (.ok profile) after
  | refused {error} (hnot : ¬ Confirmable world userId key) :
      ConfirmationEnds now userId key world (.error error) world
  | removed {error} (hown : (photoPrefix userId).toList <+: key.toList)
      (hnot : ¬ Confirmable world userId key) :
      ConfirmationEnds now userId key world (.error error)
        { world with objects := world.objects.erase key }

theorem confirmationEnds_confirmPhoto (config : S3Config)
    (emptyRead : Option JsError) (now : Instant) (userId key : String)
    (world : ProfileWorld) :
    ConfirmationEnds now userId key world
      ((confirmPhoto config now userId key).exec
        (ProfileWorld.reading emptyRead) world).1
      ((confirmPhoto config now userId key).exec
        (ProfileWorld.reading emptyRead) world).2 := by
  unfold confirmPhoto
  rw [Program.exec_bind, reading_findUser]
  cases hget : world.users.get? userId with
  | none =>
      apply ConfirmationEnds.refused
      intro hconfirmable
      have huser := hconfirmable.user
      rw [hget] at huser
      cases huser
  | some user =>
      simp only
      split
      · rename_i hforeign
        apply ConfirmationEnds.refused
        intro hconfirmable
        have hown := List.isPrefixOf_iff_prefix.mpr hconfirmable.own
        rw [hforeign] at hown
        cases hown
      · rename_i hprefix
        rw [Bool.not_eq_false, List.isPrefixOf_iff_prefix] at hprefix
        have hinvalid : (∀ object, world.objects.lookup key = some object →
            ¬ ValidObject object) → ¬ Confirmable world userId key := by
          rintro hall ⟨-, -, object, hobject, hvalid⟩
          exact hall object hobject (validObject_iff.mpr hvalid)
        have hcheck := checked_checkObject emptyRead key world
        rw [Program.exec_bind]
        generalize (checkObject key).exec (ProfileWorld.reading emptyRead) world
          = outcome at hcheck ⊢
        obtain ⟨result, checked⟩ := outcome
        simp only at hcheck
        cases hcheck with
        | refused hall => exact .refused (hinvalid hall)
        | @removed object error hobject hnot =>
            apply ConfirmationEnds.removed hprefix
            apply hinvalid
            intro found hfound
            rw [hobject] at hfound
            cases hfound
            exact hnot
        | @passed object hobject hvalid =>
            have hconfirmable : Confirmable world userId key :=
              ⟨by simp [hget], hprefix, object, hobject,
                validObject_iff.mp hvalid⟩
            obtain ⟨users, objects, hstore, hstored⟩ :=
              reading_storeKey emptyRead key world hget
            obtain ⟨profile, hannounce⟩ := reading_announce emptyRead config
              now user hstored.row
            simp only
            rw [Program.exec_bind, hstore]
            simp only
            rw [hannounce]
            refine .confirmed hconfirmable hget ⟨?_, rfl⟩
            exact ⟨hstored.row, hstored.others, hstored.gone, hstored.kept⟩

/-- `confirmPhoto` succeeds exactly for the user's own uploaded images of an
allowed type and size.  Then the key is the user's photo, the photo before it
is gone and one event says so; otherwise only the refused object may be. -/
theorem confirms_valid_photos (config : S3Config) (emptyRead : Option JsError)
    (now : Instant) (userId key : String) (world : ProfileWorld) :
    let outcome := (confirmPhoto config now userId key).exec
      (ProfileWorld.reading emptyRead) world
    ((∃ profile, outcome.1 = .ok profile) ↔ Confirmable world userId key) ∧
    (∀ profile, outcome.1 = .ok profile →
      ∃ user, world.users.get? userId = some user ∧
        Confirmed now userId key world user outcome.2) ∧
    ∀ error, outcome.1 = .error error →
      outcome.2.users = world.users ∧
      outcome.2.published = world.published ∧
      (outcome.2.objects = world.objects ∨
        ((photoPrefix userId).toList <+: key.toList ∧
          outcome.2.objects = world.objects.erase key)) := by
  intro outcome
  have hends : ConfirmationEnds now userId key world outcome.1 outcome.2 :=
    confirmationEnds_confirmPhoto config emptyRead now userId key world
  generalize outcome.1 = result, outcome.2 = after at hends
  cases hends with
  | @confirmed profile user after hconfirmable hget hconfirmed =>
      refine ⟨⟨fun _ => hconfirmable, fun _ => ⟨profile, rfl⟩⟩, ?_, by simp⟩
      intro _ _
      exact ⟨user, hget, hconfirmed⟩
  | refused hnot =>
      refine ⟨⟨by simp, fun hconfirmable => (hnot hconfirmable).elim⟩,
        by simp, ?_⟩
      intro _ _
      exact ⟨rfl, rfl, Or.inl rfl⟩
  | removed hown hnot =>
      refine ⟨⟨by simp, fun hconfirmable => (hnot hconfirmable).elim⟩,
        by simp, ?_⟩
      intro _ _
      exact ⟨rfl, rfl, Or.inr ⟨hown, rfl⟩⟩

end FakeBolt.Profile
