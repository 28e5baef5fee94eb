import Kitchen.Operation.Encoding
import Kitchen.Operation.Flow
import Kitchen.Operation.JsonLayout
import Kitchen.Operation.LetterCase
import Kitchen.Operation.Pause
import Kitchen.Operation.Registry
import Kitchen.Operation.Replacement
import Kitchen.Operation.Reversal

/-!
# Built-in operations

The registry that is there from the start.
-/

namespace Kitchen

def builtInOperations : List Operation :=
  Flow.operations ++
    [LetterCase.upperCase, LetterCase.lowerCase, Reversal.operation, Replacement.operation,
      Encoding.base64Encoder, Encoding.base64Decoder, Encoding.hexEncoder, Encoding.hexDecoder,
      Digest.operation, JsonLayout.beautifier, JsonLayout.minifier, Pause.operation]

/-- The registry of the built-in operations. -/
def Registry.builtIn : Registry := Registry.empty.registerAll builtInOperations

end Kitchen
