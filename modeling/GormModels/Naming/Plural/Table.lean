/-!
English nouns whose plurals follow no rule, or another rule than their endings suggest.
-/

namespace GormModels.Naming.Plural

/-- Nouns with plurals of their own; the first of several is the one in use. -/
def irregular : List (String × List String) :=
  [("child", ["children"]), ("chili", ["chilis", "chilies"]), ("brother", ["brothers", "brethren"]),
    ("infinity", ["infinities", "infinity"]), ("loaf", ["loaves"]), ("lore", ["lores", "lore"]),
    ("hoof", ["hoofs", "hooves"]), ("beef", ["beefs", "beeves"]), ("thief", ["thiefs", "thieves"]),
    ("money", ["monies"]), ("mongoose", ["mongooses"]), ("ox", ["oxen"]), ("cow", ["cows", "kine"]),
    ("graffito", ["graffiti"]), ("octopus", ["octopuses", "octopodes"]), ("genie", ["genies", "genii"]),
    ("ganglion", ["ganglions", "ganglia"]), ("trilby", ["trilbys"]), ("turf", ["turfs", "turves"]),
    ("numen", ["numina"]), ("atman", ["atmas"]), ("occiput", ["occiputs", "occipita"]),
    ("sabretooth", ["sabretooths"]), ("sabertooth", ["sabertooths"]), ("lowlife", ["lowlifes"]),
    ("flatfoot", ["flatfoots"]), ("tenderfoot", ["tenderfoots"]), ("romany", ["romanies"]),
    ("jerry", ["jerries"]), ("mary", ["maries"]), ("talouse", ["talouses"]), ("rom", ["roma"]),
    ("carmen", ["carmina"]), ("corpus", ["corpuses", "corpora"]), ("opus", ["opuses", "opera"]),
    ("genus", ["genera"]), ("mythos", ["mythoi"]), ("penis", ["penises", "penes"]),
    ("testis", ["testes"]), ("atlas", ["atlases", "atlantes"]), ("yes", ["yeses"])]

/-- Names with plurals of their own. -/
def irregularNames : List (String × String) :=
  [("Romany", "Romanies"), ("Jerry", "Jerrys"), ("Mary", "Marys"), ("Rom", "Roma")]

/-- Pairs of words with a plural of their own; the readings of it are parted by a bar. -/
def irregularPairs : List (String × String) := [("prima donna", "prima donnas|prime donne")]

/-- Pronouns of the subject with their plurals. -/
def subjects : List (String × String) :=
  [("i", "we"), ("myself", "ourselves"), ("you", "you"), ("yourself", "yourselves"), ("she", "they"),
    ("herself", "themselves"), ("he", "they"), ("himself", "themselves"), ("it", "they"),
    ("itself", "themselves"), ("they", "they"), ("themself", "themselves"), ("mine", "ours"),
    ("yours", "yours"), ("hers", "theirs"), ("his", "theirs"), ("its", "theirs"), ("theirs", "theirs")]

/-- Pronouns of the object with their plurals. -/
def objects : List (String × String) :=
  [("me", "us"), ("myself", "ourselves"), ("you", "you"), ("yourself", "yourselves"), ("her", "them"),
    ("herself", "themselves"), ("it", "them"), ("itself", "themselves"), ("him", "them"),
    ("himself", "themselves"), ("them", "them"), ("themself", "themselves")]

/-- Words that are their own plurals. -/
def unchangedWords : List String :=
  ["tuna", "salmon", "mackerel", "trout", "bream", "sea-bass", "carp", "cod", "flounder", "whiting",
    "moose", "graffiti", "djinn", "samuri", "offspring", "pence", "quid", "hertz", "breeches",
    "britches", "pajamas", "pyjamas", "clippers", "gallows", "hijinks", "headquarters", "pliers",
    "scissors", "testes", "herpes", "pincers", "shears", "proceedings", "trousers", "cantus", "coitus",
    "nexus", "contretemps", "corps", "debris", "siemens", "mumps", "diabetes", "jackanapes", "series",
    "species", "subspecies", "rabies", "chassis", "innings", "news", "mews", "haggis"]

/-- Names that are their own plurals. -/
def unchangedNames : List String :=
  ["Portuguese", "Amoyese", "Borghese", "Congoese", "Faroese", "Foochowese", "Genevese", "Genoese",
    "Gilbertese", "Hottentotese", "Kiplingese", "Kongoese", "Lucchese", "Maltese", "Nankingese",
    "Niasese", "Pekingese", "Piedmontese", "Pistoiese", "Sarawakese", "Shavese", "Vermontese",
    "Wenchowese", "Yengeese"]

/-- Endings of words that are their own plurals. -/
def unchangedEndings : List String :=
  ["butter", "cash", "equipment", "furniture", "information", "luggage", "baggage", "jewelry", "cutlery",
    "machinery", "livestock", "fish", "deer", "sheep", "nese", "rese",
    "lese", "mese", "pox", "craft", "ois", "measles"]

/-- Singular words on -us that look like plurals of no other word. -/
def singularUs : List String :=
  ["status", "apparatus", "prospectus", "sinus", "hiatus", "impetus", "plexus"]

/-- Singular words on -s. -/
def singularS : List String :=
  ["acropolis", "aegis", "alias", "asbestos", "bathos", "bias", "bronchitis", "bursitis", "caddis",
    "cannabis", "canvas", "chaos", "christmas", "cosmos", "dais", "digitalis", "epidermis", "ethos",
    "eyas", "gas", "glottis", "hubris", "ibis", "lens", "mantis", "marquis", "metropolis", "pathos",
    "pelvis", "polis", "rhinoceros", "sassafras", "trellis", "ephemeris", "iris", "clitoris",
    "chrysalis", "epididymis"]

/-- Endings of singular words on -s. -/
def singularEndings : List String := ["ss", "us", "itis"]

/-- Words on -man whose plural is on -mans. -/
def mans : List String :=
  ["ataman", "caiman", "cayman", "ceriman", "desman", "dolman", "farman", "harman", "hetman", "human",
    "leman", "ottoman", "shaman", "talisman"]

def mansNames : List String :=
  ["Alabaman", "Bahaman", "Burman", "German", "Hiroshiman", "Liman", "Nakayaman", "Norman",
    "Oklahoman", "Panaman", "Roman", "Selman", "Sonaman", "Tacoman", "Yakiman", "Yokohaman", "Yuman"]

def lice : List String := ["booklouse", "grapelouse", "louse", "woodlouse"]

/-- Latin and Greek words: how many letters they lose, what they get, and the words. -/
def borrowed : List (Nat × String × List String) :=
  [(0, "s", ["czech", "eunuch", "stomach"]),
    (2, "ices", ["codex", "murex", "silex"]),
    (2, "ices", ["radix", "helix"]),
    (2, "a",
      ["bacterium", "agendum", "desideratum", "erratum", "stratum", "datum", "ovum", "extremum",
        "candelabrum"]),
    (2, "i",
      ["alumnus", "alveolus", "bacillus", "bronchus", "locus", "nucleus", "stimulus", "meniscus",
        "sarcophagus"]),
    (2, "a",
      ["criterion", "perihelion", "aphelion", "phenomenon", "prolegomenon", "noumenon", "organon",
        "asyndeton", "hyperbaton"]),
    (0, "e", ["alumna", "alga", "vertebra", "persona", "vita"])]

/-- Words on -z that do not double it. -/
def singleZ : List String := ["quartz", "topaz"]

/-- Endings of words on -o that take an -s alone. -/
def oWithS : List String :=
  ["aficionado", "aggro", "albino", "allegro", "ammo", "archipelago", "armadillo", "auto",
    "avocado", "bimbo", "bingo", "bolero", "bongo", "burro", "canto", "cappuccino", "casino",
    "cello", "cilantro", "cochito", "coco", "commando", "concertino", "contango", "credo",
    "crescendo", "cyano", "demo", "ditto", "dynamo", "embryo", "espresso", "euro", "falsetto",
    "fiasco", "flamenco", "furioso", "generalissimo", "ghetto", "gigolo", "gizmo", "gringo",
    "guano", "gumbo", "gyro", "hairdo", "hippo", "impetigo", "inferno", "info", "intermezzo",
    "intertrigo", "jumbo", "junto", "kilo", "libero", "libido", "libretto", "lido", "limbo", "limo",
    "lineno", "lingo", "lino", "livedo", "loco", "logo", "lumbago", "macho", "macro", "mafioso",
    "magneto", "magnifico", "manifesto", "medico", "memo", "metro", "micro", "mono", "myo",
    "neutrino", "octavo", "oregano", "panto", "pedalo", "photo", "pimento", "pinto", "pleco",
    "pogo", "polo", "poncho", "pro", "psycho", "pueblo", "quarto", "repo", "rhino", "risotto",
    "rococo", "rondo", "saddo", "sago", "salvo", "scherzando", "scherzo", "silo", "sirocco",
    "sombrero", "staccato", "sterno", "stucco", "stylo", "sumo", "techno", "terrazzo", "testudo",
    "timpano", "tiro", "tobacco", "torero", "torso", "tremolo", "typo", "tyro", "ufo", "vaquero",
    "vermicello", "verso", "vibrato", "violoncello", "weirdo", "yo-yo", "zero", "solo", "soprano",
    "basso", "alto", "contralto", "tempo", "piano", "virtuoso"]

/-- Short words on -o that take an -s alone. -/
def oWordsWithS : List String := ["ado", "oto"]

/-- Nouns with an adjective behind them. -/
def postfixed : List (String × String) := [("court", "martial"), ("pound", "force")]

/-- The beginnings of ranks on general, which are nouns as a whole. -/
def ranks : List String := ["major", "lieutenant", "brigadier", "adjutant"]

/-- Words that join a noun to what describes it. -/
def joiners : List String :=
  ["about", "above", "across", "after", "among", "around", "at", "athwart", "before", "behind", "below",
    "beneath", "beside", "besides", "between", "betwixt", "beyond", "but", "by", "during", "except",
    "for", "from", "in", "into", "near", "of", "off", "on", "onto", "out", "over", "since", "till",
    "to", "under", "until", "unto", "upon", "with", "de", "du", "da"]

end GormModels.Naming.Plural
