/-! # Tokens

Prims, properties, data source members and types are all named by tokens. A token is its text:
two tokens with the same text are the same token, and tokens order as their texts do, by code
point.
-/

namespace LayeredScene

abbrev Token := String

end LayeredScene
