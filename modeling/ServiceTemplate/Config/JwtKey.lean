import ServiceTemplate.Foundations.ReplaceAll

/-!
# The public key of the JWT verification in one line

`scripts/generateJwt.ts` prints the public key with every newline replaced by
two bars, so that it fits into an environment variable, and `decodeJwtConfig`
of `src/infrastructure/config.ts` restores the newlines.
-/

namespace ServiceTemplate

namespace JwtKey

/-- `String.replaceAll` of the runtime, for a separator that is not empty. -/
def replaceAllIn (text : String) (first : Char) (more replacement : List Char) :
    String :=
  String.ofList (replaceAll first more replacement text.toList)

/-- `decodeJwtConfig`: `jwtPublicKey.replaceAll('||', '\n')` -/
def decodeJwtConfig (jwtPublicKey : String) : String :=
  replaceAllIn jwtPublicKey '|' ['|'] ['\n']

/-- `publicKey.replaceAll('\n', '||')` -/
def encodedPublicKey (publicKey : String) : String :=
  replaceAllIn publicKey '\n' [] ['|', '|']

/-- The message that `generateJwt.ts` logs. -/
def publicKeyMessage (publicKey : String) : String :=
  "Public key: \n" ++ encodedPublicKey publicKey

theorem decodeJwtConfig_toList (text : String) :
    (decodeJwtConfig text).toList = replaceAll '|' ['|'] ['\n'] text.toList := by
  simp [decodeJwtConfig, replaceAllIn]

theorem encodedPublicKey_toList (publicKey : String) :
    (encodedPublicKey publicKey).toList =
      replaceAll '\n' [] ['|', '|'] publicKey.toList := by
  simp [encodedPublicKey, replaceAllIn]

/-- The encoded key is a single line. -/
theorem newline_not_mem_encodedPublicKey (publicKey : String) :
    '\n' ∉ (encodedPublicKey publicKey).toList := by
  rw [encodedPublicKey_toList]
  intro member
  have occurs : ['\n'] <:+: replaceAll '\n' [] ['|', '|'] publicKey.toList :=
    (List.singleton_infix_iff _ _).mpr member
  exact ReplaceAll.separator_not_infix_replaceAll (by simp) (by simp)
    publicKey.toList occurs

theorem decodeJwtConfig_encodedPublicKey {publicKey : String}
    (noBar : '|' ∉ publicKey.toList) :
    decodeJwtConfig (encodedPublicKey publicKey) = publicKey := by
  apply String.toList_injective
  rw [decodeJwtConfig_toList, encodedPublicKey_toList]
  exact ReplaceAll.replaceAll_replaceAll noBar

theorem separator_not_infix_decodeJwtConfig (text : String) :
    ¬ ['|', '|'] <:+: (decodeJwtConfig text).toList := by
  rw [decodeJwtConfig_toList]
  apply ReplaceAll.separator_not_infix_replaceAll
  · simp
  · simp

/-- A text without the separator is decoded already. -/
theorem decodeJwtConfig_of_absent {text : String}
    (absent : ¬ ['|', '|'] <:+: text.toList) : decodeJwtConfig text = text := by
  apply String.toList_injective
  rw [decodeJwtConfig_toList]
  exact ReplaceAll.replaceAll_of_absent absent

theorem decodeJwtConfig_idempotent (text : String) :
    decodeJwtConfig (decodeJwtConfig text) = decodeJwtConfig text :=
  decodeJwtConfig_of_absent (separator_not_infix_decodeJwtConfig text)

/-- A key that has no separator is left as it is by the decoder. -/
theorem decodeJwtConfig_of_noBar {publicKey : String}
    (noBar : '|' ∉ publicKey.toList) : decodeJwtConfig publicKey = publicKey := by
  apply decodeJwtConfig_of_absent
  intro occurs
  exact noBar (occurs.subset (by simp))

/-- The encoding of the key in one line is lossless: what is printed behind the
label is a single line that is decoded to the key.  Decoding a text removes every
separator, so that a decoded key is decoded to itself. -/
theorem publicKey_round_trip :
    (∀ publicKey : String, '|' ∉ publicKey.toList →
      decodeJwtConfig publicKey = publicKey ∧
        ∃ text, publicKeyMessage publicKey = "Public key: \n" ++ text ∧
          '\n' ∉ text.toList ∧ decodeJwtConfig text = publicKey) ∧
      ∀ text, ¬ ['|', '|'] <:+: (decodeJwtConfig text).toList ∧
        decodeJwtConfig (decodeJwtConfig text) = decodeJwtConfig text := by
  constructor
  · intro publicKey noBar
    constructor
    · exact decodeJwtConfig_of_noBar noBar
    · refine ⟨encodedPublicKey publicKey, rfl, ?_, ?_⟩
      · exact newline_not_mem_encodedPublicKey publicKey
      · exact decodeJwtConfig_encodedPublicKey noBar
  · intro text
    exact ⟨separator_not_infix_decodeJwtConfig text,
      decodeJwtConfig_idempotent text⟩

/-- A key with an empty line and a newline at its end. -/
theorem publicKey_round_trip_example :
    let publicKey := "-----BEGIN PUBLIC KEY-----\n\nMIIB\n"
    publicKeyMessage publicKey =
        "Public key: \n" ++ "-----BEGIN PUBLIC KEY-----||||MIIB||" ∧
      decodeJwtConfig "-----BEGIN PUBLIC KEY-----||||MIIB||" = publicKey := by
  intro publicKey
  have printed : publicKeyMessage publicKey =
      "Public key: \n" ++ "-----BEGIN PUBLIC KEY-----||||MIIB||" := by
    decide
  obtain ⟨text, message, -, decoded⟩ := (publicKey_round_trip.1 publicKey (by decide)).2
  have sameText : "-----BEGIN PUBLIC KEY-----||||MIIB||" = text := by
    apply String.toList_injective
    have labelled := congrArg String.toList (printed.symm.trans message)
    rw [String.toList_append, String.toList_append] at labelled
    exact List.append_cancel_left labelled
  rw [sameText]
  exact ⟨message, decoded⟩

end JwtKey

end ServiceTemplate
