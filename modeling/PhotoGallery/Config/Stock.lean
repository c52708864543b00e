/-!
# The stock configuration file

The text of a configuration file that explains all its fields.
-/

namespace PhotoGallery.Config

/-- A documented configuration file to start from. -/
def stockText : String :=
  String.intercalate "\n"
    ["# Danlann Configuration",
      "# ======================",
      "# Unknown keys will cause an error.",
      "",
      "# Gallery title (required).",
      "title = \"My Gallery\"",
      "",
      "# Gallery description (optional).",
      "description = \"\"",
      "",
      "# Album description files, interpreted in this order (required).",
      "# Paths are relative to this file. An album may be referenced in one",
      "# file and defined in a later one.",
      "#",
      "# Album file syntax, one statement per line:",
      "#   /dir; title[; description]     album definition",
      "#   /dir                           subalbum of the album defined above",
      "#   name[; title[; description]]   photo of the album defined above",
      "#   # comment",
      "albums = [",
      "    \"albums.txt\",",
      "]",
      ""]

end PhotoGallery.Config
