/-!
# The banner and the help of the shell
-/

namespace DelphiRtti.Shell

def bannerLines : List String :=
  ["[*] Dhrake v0.1.0 - Interactive Mode",
    "╔══════════════════════════════════════════════════════════════╗",
    "║  Dhrake CLI - Type '?' for help, 'q' to quit                 ║",
    "╚══════════════════════════════════════════════════════════════╝"]

def helpLines : List String :=
  ["Dhrake CLI Commands",
    String.ofList (List.replicate 50 '═'),
    "",
    "Files:",
    "  o <path>      Open a PE32 binary",
    "  i             Binary summary",
    "",
    "Navigation:",
    "  s <addr>      Seek to address",
    "  x [n]         Hexdump at cursor",
    "",
    "Classes:",
    "  pc [addr]     Rebuild class from metadata at cursor",
    "  ns            List classes",
    "  fns [class]   List functions",
    "  types         List data types",
    "  pt <name>     Print a data type",
    "",
    "Other:",
    "  ?             Show this help",
    "  q             Quit Dhrake"]

end DelphiRtti.Shell
