import StaticSite.Jsx.PageModule
import StaticSite.Site.Project

/-!
# Scaffold files

The files that stand beside the pages of every site. Only the name and the description of
the project go into them.
-/

namespace StaticSite

open Json

def packageName (name : String) : String :=
  slug name

/-- An object of strings. -/
def stringMembers (members : List (String × String)) : Value :=
  .object (members.map fun (key, text) => (key, .string text))

def packageManifest (name description : String) : Value :=
  .object
    [("name", .string (packageName name)), ("version", .string "1.0.0"),
      ("description", .string description), ("main", .string "index.js"),
      ("scripts",
        stringMembers [("dev", "vite"), ("build", "vite build"), ("preview", "vite preview")]),
      ("dependencies", stringMembers [("react", "^18.2.0"), ("react-dom", "^18.2.0")]),
      ("devDependencies",
        stringMembers
          [("@types/react", "^18.2.0"), ("@types/react-dom", "^18.2.0"),
            ("@vitejs/plugin-react", "^4.0.0"), ("typescript", "^5.0.0"), ("vite", "^4.4.0")])]

def viteConfig : String :=
  "import \x7b defineConfig \x7d from 'vite'\nimport react from '@vitejs/plugin-react'\n\n" ++
    "export default defineConfig(\x7b\n  plugins: [react()],\n\x7d)\n"

def tsconfig : Value :=
  .object
    [("compilerOptions",
        .object
          [("target", .string "ES2020"), ("useDefineForClassFields", .bool true),
            ("lib", .array [.string "ES2020", .string "DOM", .string "DOM.Iterable"]),
            ("module", .string "ESNext"), ("skipLibCheck", .bool true),
            ("moduleResolution", .string "bundler"), ("allowImportingTsExtensions", .bool true),
            ("resolveJsonModule", .bool true), ("isolatedModules", .bool true),
            ("noEmit", .bool true), ("jsx", .string "react-jsx"), ("strict", .bool true),
            ("noUnusedLocals", .bool true), ("noUnusedParameters", .bool true),
            ("noFallthroughCasesInSwitch", .bool true)]),
      ("include", .array [.string "src"])]

def readme (name description : String) : String :=
  "# " ++ name ++ "\n\n" ++ description ++
    "\n\n## Generated by SiteForge\n\n" ++
    "This project was generated by SiteForge and is ready for development.\n\n" ++
    "## Getting Started\n\n\x60\x60\x60bash\nnpm install\nnpm run dev\n\x60\x60\x60\n\n" ++
    "## Build\n\n\x60\x60\x60bash\nnpm run build\n\x60\x60\x60\n"

/-- Paths and contents of the scaffold files of a project with this name and description. -/
def scaffoldFiles (name description : String) : List (String × String) :=
  [("package.json", (packageManifest name description).pretty), ("vite.config.ts", viteConfig),
    ("tsconfig.json", tsconfig.pretty), ("README.md", readme name description)]

def Project.scaffold (project : Project) : List (String × String) :=
  scaffoldFiles project.name project.description

end StaticSite
