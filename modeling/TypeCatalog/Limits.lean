namespace TypeCatalog.Limits

/-!
# Limits

Fixed bounds on answers, pages, tokens and keys.
-/

/-- The version that every answer carries. -/
def contractVersion : String := "1.0"

/-- The greatest number of characters of an answer. -/
def maximumResponse : Nat := 100000

/-- The number of characters that a page aims at, and above which paging is advised. -/
def pageTarget : Nat := 50000

/-- The least page size that is ever recommended. -/
def leastRecommendedPage : Nat := 10

/-- The greatest page size. -/
def maximumPageSize : Nat := 1000

/-- The page size when nothing else says one. -/
def defaultPageSize : Nat := 50

/-- The number of digits of a digest that bind a token to its query. -/
def saltLength : Nat := 16

/-- The number of characters of a cache key that stay readable. -/
def readableKeyLength : Nat := 256

/-- The least lifetime of a cached answer in seconds. -/
def leastLifetime : Int := 1

/-- The lifetime of a cached answer in seconds when nothing else says one. -/
def defaultLifetime : Int := 300

/-- How many references, or types, may stand inside one another when a value is checked. -/
def checkedDepth : Nat := 255

/-- How many calls inside one another a shorthand text may take. -/
def shorthandDepth : Nat := 985

/-- How many lists and mappings may stand inside one another in a JSON text. -/
def jsonDepth : Nat := 980

/-- How many collections may stand inside one another in a YAML text. -/
def yamlDepth : Nat := 485

/-- The greatest number of bytes of the name of a file. -/
def nameBytes : Nat := 255

/-- The number of bytes from which on a path is too long. -/
def pathBytes : Nat := 4096

end TypeCatalog.Limits
